import Mathlib.Data.List.Basic
import Mathlib.Algebra.GroupWithZero.Nat

namespace Anbox.Framework

variable {σ α β : Type*}

/-- A machine that reads one symbol after the other and writes as it goes, or gives up. -/
structure Transducer (σ α β : Type*) where
  step : σ → α → Option (List β × σ)
  finish : σ → Option (List β)

namespace Transducer

variable (T : Transducer σ α β)

/-- All that is written for an input. -/
def run : σ → List α → Option (List β)
  | s, [] => T.finish s
  | s, x :: xs => (T.step s x).bind fun p => (run p.2 xs).map (p.1 ++ ·)

variable {T}

theorem run_cons_of_step {s s' : σ} {x : α} {out : List β} (h : T.step s x = some (out, s'))
    (xs : List α) : T.run s (x :: xs) = (T.run s' xs).map (out ++ ·) := by
  rw [run, h, Option.bind_some]

theorem run_cons_some {s : σ} {x : α} {xs : List α} {written : List β}
    (h : T.run s (x :: xs) = some written) :
    ∃ out s' later, T.step s x = some (out, s') ∧ T.run s' xs = some later ∧ written = out ++ later := by
  obtain ⟨⟨out, s'⟩, step, rest⟩ := Option.bind_eq_some_iff.mp h
  obtain ⟨later, hlater, rfl⟩ := Option.map_eq_some_iff.mp rest
  exact ⟨out, s', later, step, hlater, rfl⟩

/-! A machine that writes no more than it reads. What it has read and not written yet is what it
owes. -/

variable {weight : β → Nat} {owed : σ → Nat}

def total (weight : β → Nat) (out : List β) : Nat := (out.map weight).sum

theorem total_append (out later : List β) :
    total weight (out ++ later) = total weight out + total weight later := by
  rw [total, List.map_append, List.sum_append, total, total]

/-- One symbol more is the most that a step can add. -/
structure Bounded (T : Transducer σ α β) (weight : β → Nat) (owed : σ → Nat) : Prop where
  step : ∀ {s x out s'}, T.step s x = some (out, s') → total weight out + owed s' ≤ owed s + 1
  finish : ∀ {s out}, T.finish s = some out → total weight out ≤ owed s

theorem Bounded.run (hT : T.Bounded weight owed) {s : σ} {xs : List α} {written : List β}
    (h : T.run s xs = some written) : total weight written ≤ owed s + xs.length := by
  induction xs generalizing s written with
  | nil => exact hT.finish h
  | cons x xs ih =>
    obtain ⟨out, s', later, step, hlater, rfl⟩ := run_cons_some h
    have first := hT.step step
    have rest := ih hlater
    rw [total_append, List.length_cons]
    omega

/-- What is written without any loss is good. -/
structure Tight (T : Transducer σ α β) (weight : β → Nat) (owed : σ → Nat) (Good : σ → Prop)
    (Fine : β → Prop) : Prop where
  step : ∀ {s x out s'}, T.step s x = some (out, s') → Good s → total weight out + owed s' = owed s + 1 →
    (∀ b ∈ out, Fine b) ∧ Good s'
  finish : ∀ {s out}, T.finish s = some out → Good s → total weight out = owed s → ∀ b ∈ out, Fine b

theorem Tight.run {Good : σ → Prop} {Fine : β → Prop} (tight : T.Tight weight owed Good Fine)
    (hT : T.Bounded weight owed) {s : σ} {xs : List α} {written : List β}
    (h : T.run s xs = some written) (good : Good s) (all : total weight written = owed s + xs.length) :
    ∀ b ∈ written, Fine b := by
  induction xs generalizing s written with
  | nil => exact tight.finish h good all
  | cons x xs ih =>
    obtain ⟨out, s', later, step, hlater, rfl⟩ := run_cons_some h
    have first := hT.step step
    have rest := hT.run hlater
    rw [total_append, List.length_cons] at all
    obtain ⟨fine, good'⟩ := tight.step step good (by omega)
    exact List.forall_mem_append.mpr ⟨fine, ih hlater good' (by omega)⟩

end Transducer

end Anbox.Framework
