import Mathlib.Data.Finset.Insert

namespace Anbox.Framework

variable {N κ : Type*}

/-- The live names are those that are recorded, and each is recorded in one place. -/
structure Recorded (live : Finset N) (recorded : κ → Option N) : Prop where
  mem : ∀ n, n ∈ live ↔ ∃ k, recorded k = some n
  one : ∀ k l n, recorded k = some n → recorded l = some n → k = l

variable {live : Finset N} {recorded recorded' : κ → Option N} {k : κ} {n : N}

theorem recorded_empty : Recorded (∅ : Finset N) (fun _ : κ => none) where
  mem := by simp
  one := by simp

namespace Recorded

theorem unique (h : Recorded live recorded) (hn : n ∈ live) : ∃! k, recorded k = some n := by
  obtain ⟨k, hk⟩ := (h.mem n).mp hn
  exact ⟨k, hk, fun l hl => h.one l k n hl hk⟩

/-- A name that was generated is recorded where there was none. -/
theorem record [DecidableEq N] (h : Recorded live recorded) (fresh : n ∉ live)
    (new : recorded k = none) (at_ : recorded' k = some n)
    (others : ∀ l, l ≠ k → recorded' l = recorded l) : Recorded (insert n live) recorded' where
  mem := by
    intro m
    rw [Finset.mem_insert, h.mem]
    constructor
    · intro hm
      cases hm with
      | inl same => exact ⟨k, same ▸ at_⟩
      | inr old =>
        obtain ⟨l, hl⟩ := old
        have ne : l ≠ k := by
          intro same
          rw [same, new] at hl
          cases hl
        exact ⟨l, (others l ne).trans hl⟩
    · intro ⟨l, hl⟩
      by_cases ne : l = k
      · subst ne
        exact .inl (Option.some.inj (hl.symm.trans at_))
      · exact .inr ⟨l, (others l ne).symm.trans hl⟩
  one := by
    have old {l : κ} (ne : l ≠ k) : recorded' l ≠ some n := by
      intro hl
      exact fresh ((h.mem n).mpr ⟨l, (others l ne).symm.trans hl⟩)
    intro l m x hl hm
    by_cases hlk : l = k
    · by_cases hmk : m = k
      · exact hlk.trans hmk.symm
      · obtain rfl : n = x := Option.some.inj (at_.symm.trans (hlk ▸ hl))
        exact absurd hm (old hmk)
    · by_cases hmk : m = k
      · obtain rfl : n = x := Option.some.inj (at_.symm.trans (hmk ▸ hm))
        exact absurd hl (old hlk)
      · exact h.one l m x ((others l hlk).symm.trans hl) ((others m hmk).symm.trans hm)

end Recorded

end Anbox.Framework
