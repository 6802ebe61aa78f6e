import Mathlib.Data.List.Basic

namespace Anbox.Framework

variable {K τ : Type*}

/-- What is there is divided among those who keep what is theirs. -/
structure Owned (owner : K → Option τ) (kept : τ → List K) : Prop where
  union : ∀ k, (owner k).isSome = true ↔ ∃ t, k ∈ kept t
  disjoint : ∀ k t u, k ∈ kept t → k ∈ kept u → t = u
  own : ∀ k t u, k ∈ kept t → owner k = some u → u = t

variable {owner owner' : K → Option τ} {kept kept' : τ → List K} {k : K} {t : τ}

theorem owned_iff : Owned owner kept ↔ ∀ k t, k ∈ kept t ↔ owner k = some t := by
  constructor
  · intro h k t
    constructor
    · intro hk
      obtain ⟨u, hu⟩ := Option.isSome_iff_exists.mp ((h.union k).mpr ⟨t, hk⟩)
      rw [hu, h.own k t u hk hu]
    · intro ho
      obtain ⟨u, hu⟩ := (h.union k).mp (by rw [ho]; rfl)
      rwa [h.own k u t hu ho]
  · intro h
    refine ⟨?_, ?_, ?_⟩
    · intro k
      simp only [h, Option.isSome_iff_exists]
    · intro k t u ht hu
      rw [h] at ht hu
      exact Option.some.inj (ht.symm.trans hu)
    · intro k t u ht hu
      rw [h] at ht
      exact Option.some.inj (hu.symm.trans ht)

theorem owned_empty : Owned (fun _ : K => (none : Option τ)) fun _ => [] :=
  owned_iff.mpr fun k t => by simp

/-- Something new is there, and its owner keeps it. -/
theorem Owned.create (h : Owned owner kept) (new : owner k = none)
    (at_ : owner' k = some t) (others : ∀ x, x ≠ k → owner' x = owner x)
    (keeps : ∀ x u, x ∈ kept' u ↔ x ∈ kept u ∨ x = k ∧ u = t) : Owned owner' kept' := by
  rw [owned_iff] at h ⊢
  intro x u
  rw [keeps]
  by_cases hx : x = k
  · subst hx
    simp [h, new, at_, eq_comm]
  · simp [h, others x hx, hx]

/-- An owner gives away all it keeps. -/
theorem Owned.drain (h : Owned owner kept) (gone : ∀ x, x ∈ kept t → owner' x = none)
    (others : ∀ x, x ∉ kept t → owner' x = owner x)
    (keeps : ∀ x u, x ∈ kept' u ↔ x ∈ kept u ∧ u ≠ t) : Owned owner' kept' := by
  rw [owned_iff] at h ⊢
  intro x u
  rw [keeps]
  by_cases hx : x ∈ kept t
  · rw [gone x hx]
    rw [h] at hx
    simp only [h, hx, Option.some.injEq, reduceCtorEq, iff_false, not_and, not_not]
    exact Eq.symm
  · rw [others x hx, h]
    rw [h] at hx
    refine ⟨fun hu => hu.1, fun hu => ⟨hu, ?_⟩⟩
    rintro rfl
    exact hx hu

/-- Something is taken away, and `t` no longer keeps it: right exactly when it was not there or was
`t`'s own. -/
theorem Owned.destroy_iff (h : Owned owner kept) (gone : owner' k = none)
    (others : ∀ x, x ≠ k → owner' x = owner x)
    (keeps : ∀ x u, x ∈ kept' u ↔ x ∈ kept u ∧ ¬ (x = k ∧ u = t)) :
    Owned owner' kept' ↔ ∀ u, owner k = some u → u = t := by
  rw [owned_iff] at h
  constructor
  · intro h' u hu
    rw [owned_iff] at h'
    by_contra other
    have still : k ∈ kept' u := (keeps k u).mpr ⟨(h k u).mpr hu, fun hk => other hk.2⟩
    rw [h', gone] at still
    cases still
  · intro own
    rw [owned_iff]
    intro x u
    rw [keeps]
    by_cases hx : x = k
    · subst hx
      rw [gone, h]
      constructor
      · rintro ⟨hu, not⟩
        exact absurd ⟨rfl, own u hu⟩ not
      · intro hu
        cases hu
    · simp [h, others x hx, hx]

end Anbox.Framework
