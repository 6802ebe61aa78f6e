import Mathlib.Order.Lattice

namespace Anbox.Framework

variable {α β : Type*} [LinearOrder β] {f : α → β}

/-- None of a list is larger than this one, and those behind it are all smaller. -/
structure LastLargest (f : α → β) (before : List α) (a : α) (after : List α) : Prop where
  before : ∀ x ∈ before, f x ≤ f a
  after : ∀ x ∈ after, f x < f a

theorem LastLargest.le {before after : List α} {a : α} (h : LastLargest f before a after) :
    ∀ x ∈ before ++ a :: after, f x ≤ f a := by
  intro x hx
  obtain early | rfl | late := by simpa using hx
  · exact h.before x early
  · exact le_rfl
  · exact le_of_lt (h.after x late)

/-- A list that is not empty has one. -/
theorem exists_lastLargest (f : α → β) {l : List α} (some_ : l ≠ []) :
    ∃ before a after, l = before ++ a :: after ∧ LastLargest f before a after := by
  induction l with
  | nil => exact absurd rfl some_
  | cons x rest ih =>
    by_cases alone : rest = []
    · subst alone
      exact ⟨[], x, [], rfl, by simp, by simp⟩
    · obtain ⟨before, a, after, rfl, h⟩ := ih alone
      by_cases smaller : f x ≤ f a
      · refine ⟨x :: before, a, after, rfl, ?_, h.after⟩
        exact List.forall_mem_cons.mpr ⟨smaller, h.before⟩
      · refine ⟨[], x, before ++ a :: after, rfl, by simp, ?_⟩
        intro y hy
        exact lt_of_le_of_lt (h.le y hy) (not_le.mp smaller)

/-- The last largest elements for two sizes are the same one when they are alike in both. -/
theorem LastLargest.unique {γ : Type*} [LinearOrder γ] {g : α → γ} {b b' r r' : List α} {a a' : α}
    (first : LastLargest f b a r) (second : LastLargest g b' a' r')
    (split : b ++ a :: r = b' ++ a' :: r') (same : f a = f a') (also_ : g a = g a') :
    b = b' ∧ a = a' ∧ r = r' := by
  obtain ⟨between, rfl, cut⟩ | ⟨between, rfl, cut⟩ := List.append_eq_append_iff.mp split
  · cases between with
    | nil =>
      obtain ⟨rfl, rfl⟩ := List.cons.inj cut
      exact ⟨(List.append_nil _).symm, rfl, rfl⟩
    | cons x between =>
      obtain ⟨rfl, rfl⟩ := List.cons.inj cut
      have smaller := first.after a' (by simp)
      exact absurd same.symm (ne_of_lt smaller)
  · cases between with
    | nil =>
      obtain ⟨rfl, rfl⟩ := List.cons.inj cut
      exact ⟨List.append_nil _, rfl, rfl⟩
    | cons x between =>
      obtain ⟨rfl, rfl⟩ := List.cons.inj cut
      have smaller := second.after a (by simp)
      exact absurd also_ (ne_of_lt smaller)

end Anbox.Framework
