import Mathlib.Data.List.Basic

namespace Anbox.Framework

variable {σ α : Type*} {f : σ → α → Except σ σ}

/-! Loops that an exception can leave: `Except.error` carries the state it leaves. -/

theorem foldlM_cons_ok {s t : σ} {a : α} {as : List α} (h : (a :: as).foldlM f s = .ok t) :
    ∃ u, f s a = .ok u ∧ as.foldlM f u = .ok t := by
  rw [List.foldlM_cons] at h
  cases hf : f s a with
  | error e =>
    rw [hf] at h
    cases h
  | ok u =>
    rw [hf] at h
    exact ⟨u, rfl, h⟩

theorem foldlM_cons_of_ok {s u : σ} {a : α} {as : List α} (h : f s a = .ok u) :
    (a :: as).foldlM f s = as.foldlM f u := by
  rw [List.foldlM_cons, h]
  rfl

/-- What every pass of the loop that does not raise keeps holds behind the loop. -/
theorem foldlM_invariant {I : σ → Prop} (hf : ∀ s a t, I s → f s a = .ok t → I t) {s t : σ}
    {as : List α} (hs : I s) (h : as.foldlM f s = .ok t) : I t := by
  induction as generalizing s with
  | nil => exact Except.ok.inj h ▸ hs
  | cons a as ih =>
    obtain ⟨u, hu, ht⟩ := foldlM_cons_ok h
    exact ih (hf s a u hs hu) ht

/-- A loop comes to its end when every pass it makes does. -/
theorem foldlM_ok_iff {s : σ} {as : List α} : (∃ t, as.foldlM f s = .ok t) ↔
    ∀ before a after t, as = before ++ a :: after → before.foldlM f s = .ok t →
      ∃ u, f t a = .ok u := by
  induction as generalizing s with
  | nil => simp [pure, Except.pure]
  | cons b as ih =>
    constructor
    · rintro ⟨t, ht⟩ before a after u cut hu
      obtain ⟨v, hv, ht⟩ := foldlM_cons_ok ht
      cases before with
      | nil =>
        obtain ⟨rfl, rfl⟩ := List.cons.inj cut
        obtain rfl := Except.ok.inj hu
        exact ⟨v, hv⟩
      | cons c before =>
        obtain ⟨rfl, rfl⟩ := List.cons.inj cut
        rw [foldlM_cons_of_ok hv] at hu
        exact ih.mp ⟨t, ht⟩ before a after u rfl hu
    · intro h
      obtain ⟨u, hu⟩ := h [] b as s rfl rfl
      rw [foldlM_cons_of_ok hu]
      apply ih.mpr
      intro before a after t cut ht
      apply h (b :: before) a after t (congrArg (List.cons b) cut)
      rw [foldlM_cons_of_ok hu, ht]

/-- Passes that are made for `g a` as for `a` make the same loop. -/
theorem foldlM_map_ok {g : α → α} (hg : ∀ s a t, f s a = .ok t → f s (g a) = .ok t) {s t : σ}
    {as : List α} (h : as.foldlM f s = .ok t) : (as.map g).foldlM f s = .ok t := by
  induction as generalizing s with
  | nil => exact h
  | cons a as ih =>
    obtain ⟨u, hu, ht⟩ := foldlM_cons_ok h
    rw [List.map_cons, foldlM_cons_of_ok (hg s a u hu)]
    exact ih ht

end Anbox.Framework
