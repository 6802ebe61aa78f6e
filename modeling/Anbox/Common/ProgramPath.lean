import Anbox.Common.Utils
import Anbox.Framework.Lines

namespace Anbox.Utils

open Anbox.Framework

/-- The bit of others in the mode of a file. -/
def S_IXOTH : UInt32 := 1

/-- Whether a file is there, and may be executed. -/
def executable (stat : List UInt8 → Option UInt32) (currentPath : List UInt8) : Bool :=
  match stat currentPath with
  | none => false
  | some stMode => stMode &&& S_IXOTH ≠ 0

def colon : UInt8 := 58

/-- `std::string::find`: where the first colon is that is not in front of `startPos`. -/
def find (path : List UInt8) (startPos : Nat) : Option Nat :=
  (nextLine (· == colon) (path.drop startPos)).map fun p => startPos + p.1.length

/-- The path of a program under a component: a slash is put between them. -/
def programPath (component name : List UInt8) : List UInt8 := component ++ 47 :: name

theorem find_some {path : List UInt8} {startPos endPos : Nat} (h : find path startPos = some endPos) :
    ∃ component rest, path.drop startPos = component ++ colon :: rest ∧ colon ∉ component ∧
      endPos = startPos + component.length := by
  obtain ⟨⟨component, rest⟩, first, rfl⟩ := Option.map_eq_some_iff.mp h
  obtain ⟨x, stop, split, plain⟩ := nextLine_some.mp first
  obtain rfl : x = colon := eq_of_beq stop
  refine ⟨component, rest, split, ?_, rfl⟩
  intro inside
  exact absurd (plain colon inside) (by decide)

theorem find_none {path : List UInt8} {startPos : Nat} (h : find path startPos = none) :
    colon ∉ path.drop startPos := by
  intro inside
  exact absurd (nextLine_none.mp (Option.map_eq_none_iff.mp h) colon inside) (by decide)

section

variable (stat : List UInt8 → Option UInt32) (path name : List UInt8)

/-- The loop, from a position in `PATH` on. -/
def searchPath (startPos : Nat) : List UInt8 :=
  match _found : find path startPos with
  | none => []
  | some endPos =>
    let currentPath := programPath ((path.drop startPos).take (endPos - startPos)) name
    if executable stat currentPath then currentPath else searchPath (endPos + 1)
termination_by path.length - startPos
decreasing_by
  obtain ⟨component, rest, split, -, rfl⟩ := find_some _found
  have length := congrArg List.length split
  simp only [List.length_drop, List.length_append, List.length_cons] at length
  omega

def findProgramOnPath : List UInt8 := searchPath stat path name 0

/-! What is wanted. -/

/-- The components of `PATH`. -/
def components : List (List UInt8) := path.splitOn colon

/-- The program under the first component in which it may be executed. -/
def programOnPath : List UInt8 :=
  (((components path).map (programPath · name)).find? (executable stat)).getD []

end

variable {stat : List UInt8 → Option UInt32} {path name : List UInt8}

theorem searchPath_none {startPos : Nat} (h : find path startPos = none) :
    searchPath stat path name startPos = [] := by
  rw [searchPath]
  split
  · rfl
  · rename_i endPos found
    rw [h] at found
    cases found

theorem searchPath_some {startPos endPos : Nat} {component rest : List UInt8}
    (h : find path startPos = some endPos) (split : path.drop startPos = component ++ colon :: rest)
    (length : endPos = startPos + component.length) : searchPath stat path name startPos =
      if executable stat (programPath component name) then programPath component name
      else searchPath stat path name (endPos + 1) := by
  have front : (path.drop startPos).take (endPos - startPos) = component := by
    rw [split, length, Nat.add_sub_cancel_left, List.take_left]
  rw [searchPath]
  split
  · rename_i none
    rw [h] at none
    cases none
  · rename_i end_pos' found
    obtain rfl := Option.some.inj (h.symm.trans found)
    rw [front]

/-- What the loop does from a position on: the last component that is left is not looked at. -/
theorem searchPath_eq (startPos : Nat) : searchPath stat path name startPos =
    (((components (path.drop startPos)).dropLast.map (programPath · name)).find?
      (executable stat)).getD [] := by
  induction h : path.length - startPos using Nat.strongRecOn generalizing startPos with
  | ind n ih =>
    subst h
    cases found : find path startPos with
    | none =>
      rw [searchPath_none found, components, List.splitOn_eq_singleton (find_none found)]
      rfl
    | some endPos =>
      obtain ⟨component, rest, split, plain, length⟩ := find_some found
      have later : path.drop (endPos + 1) = rest := by
        have behind := congrArg (List.drop (component.length + 1)) split
        rwa [List.drop_drop, ← Nat.add_assoc, ← length, List.drop_append,
          List.drop_of_length_le (Nat.le_succ _), Nat.add_sub_cancel_left, List.nil_append] at behind
      have shorter : path.length - (endPos + 1) < path.length - startPos := by
        have count := congrArg List.length split
        simp only [List.length_drop, List.length_append, List.length_cons] at count
        omega
      have first : components (component ++ colon :: rest) = component :: components rest :=
        List.splitOn_append_cons_self_of_not_mem plain rest
      have tail : components rest ≠ [] := List.splitOn_ne_nil colon rest
      rw [searchPath_some found split length, ih _ shorter _ rfl, later, split, first,
        List.dropLast_cons_of_ne_nil tail, List.map_cons, List.find?_cons]
      split_ifs with ready
      · rw [ready]
        rfl
      · rw [Bool.eq_false_iff.mpr ready]

/-- `PATH` without its last component, and that one. -/
theorem components_eq (path : List UInt8) : ∃ front last, components path = front ++ [last] :=
  ⟨_, _, (List.dropLast_append_getLast (List.splitOn_ne_nil colon path)).symm⟩

/-- The program is found unless the last component is the first one in which it may be executed. -/
theorem find_program_on_path_iff (stat : List UInt8 → Option UInt32) (path name : List UInt8) :
    findProgramOnPath stat path name = programOnPath stat path name ↔
      ∀ front last, components path = front ++ [last] →
        executable stat (programPath last name) = true →
          ∃ component ∈ front, executable stat (programPath component name) = true := by
  obtain ⟨front, last, split⟩ := components_eq path
  have only : ∀ front' last', front ++ [last] = front' ++ [last'] → front' = front ∧ last' = last := by
    intro front' last' same
    obtain ⟨fronts, lasts⟩ := List.append_inj' same rfl
    exact ⟨fronts.symm, (List.cons.inj lasts).1.symm⟩
  rw [findProgramOnPath, searchPath_eq, List.drop_zero, programOnPath, split,
    List.dropLast_concat, List.map_append, List.find?_append]
  cases found : (front.map (programPath · name)).find? (executable stat) with
  | some currentPath =>
    refine iff_of_true rfl ?_
    intro front' last' split' _
    obtain ⟨rfl, rfl⟩ := only front' last' split'
    obtain ⟨component, there, rfl⟩ := List.mem_map.mp (List.mem_of_find?_eq_some found)
    exact ⟨component, there, List.find?_some found⟩
  | none =>
    have before : ∀ component ∈ front, executable stat (programPath component name) ≠ true := by
      intro component there
      exact List.find?_eq_none.mp found _ (List.mem_map_of_mem there)
    rw [Option.none_or, List.map_singleton, List.find?_singleton]
    constructor
    · intro same front' last' split' ready
      obtain ⟨rfl, rfl⟩ := only front' last' split'
      rw [if_pos ready] at same
      exact absurd same.symm (List.append_ne_nil_of_right_ne_nil _ (List.cons_ne_nil _ _))
    · intro h
      rw [if_neg]
      intro ready
      obtain ⟨component, there, also⟩ := h front last rfl ready
      exact before component there also

/-- `/usr/bin` is all of `PATH`. -/
theorem last_component_left_out : ¬ ∀ (stat : List UInt8 → Option UInt32) (path name : List UInt8),
    findProgramOnPath stat path name = programOnPath stat path name := by
  intro h
  have whole := h (fun _ => some S_IXOTH) (text "/usr/bin") (text "squashfuse")
  rw [findProgramOnPath, searchPath_none (by decide)] at whole
  exact absurd whole (by decide)

end Anbox.Utils
