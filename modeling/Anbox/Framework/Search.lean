import Mathlib.Data.List.Basic
import Mathlib.Logic.Function.Iterate

namespace Anbox.Framework

variable {α : Type*}

/-- The first value behind `a` that is not taken, among the `n` that follow; `none` when all of
these are. -/
def search (next : α → α) (taken : α → Bool) : Nat → α → Option α
  | 0, _ => none
  | n + 1, a => if taken (next a) then search next taken n (next a) else some (next a)

variable {next : α → α} {taken : α → Bool}

theorem search_eq_none {n : Nat} {a : α} :
    search next taken n a = none ↔ ∀ k < n, taken (next^[k + 1] a) = true := by
  induction n generalizing a with
  | zero => simp [search]
  | succ n ih =>
    rw [search]
    constructor
    · intro h k hk
      split_ifs at h with first
      cases k with
      | zero => exact first
      | succ k => exact ih.mp h k (by omega)
    · intro h
      have first : taken (next a) = true := h 0 (by omega)
      rw [if_pos first]
      exact ih.mpr fun k hk => h (k + 1) (by omega)

theorem search_eq_some {n : Nat} {a b : α} :
    search next taken n a = some b ↔
      ∃ k < n, next^[k + 1] a = b ∧ taken b = false ∧ ∀ j < k, taken (next^[j + 1] a) = true := by
  induction n generalizing a with
  | zero => simp [search]
  | succ n ih =>
    rw [search]
    constructor
    · intro h
      split_ifs at h with first
      · obtain ⟨k, hk, found, free, before⟩ := ih.mp h
        refine ⟨k + 1, by omega, found, free, ?_⟩
        intro j hj
        cases j with
        | zero => exact first
        | succ j => exact before j (by omega)
      · obtain rfl := Option.some.inj h
        exact ⟨0, by omega, rfl, by simpa using first, fun j hj => by omega⟩
    · intro h
      obtain ⟨k, hk, found, free, before⟩ := h
      cases k with
      | zero =>
        change next a = b at found
        rw [found, if_neg (by simp [free])]
      | succ k =>
        have first : taken (next a) = true := before 0 (by omega)
        rw [if_pos first]
        exact ih.mpr ⟨k, by omega, found, free, fun j hj => before (j + 1) (by omega)⟩

/-- What the search finds is not taken. -/
theorem search_free {n : Nat} {a b : α} (h : search next taken n a = some b) : taken b = false := by
  obtain ⟨k, -, -, free, -⟩ := search_eq_some.mp h
  exact free

/-- The search misses a value that is not taken exactly when it stops at an earlier one. -/
theorem search_ne_iff {n k : Nat} {a b c : α} (h : search next taken n a = some b)
    (at_ : next^[k + 1] a = c) (hk : k < n) (distinct : ∀ i < n, next^[i + 1] a = c → i = k)
    (free : taken c = false) : b ≠ c ↔ ∃ j < k, taken (next^[j + 1] a) = false := by
  obtain ⟨i, hi, found, -, before⟩ := search_eq_some.mp h
  constructor
  · intro ne
    refine ⟨i, ?_, by rw [found]; exact search_free h⟩
    have near : i ≠ k := by
      rintro rfl
      exact ne (found.symm.trans at_)
    by_contra far
    have skipped := before k (by omega)
    rw [at_, free] at skipped
    cases skipped
  · rintro ⟨j, hj, earlier⟩ rfl
    have same := distinct i hi found
    have skipped := before j (by omega)
    rw [earlier] at skipped
    cases skipped

end Anbox.Framework
