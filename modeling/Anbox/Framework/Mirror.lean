import Mathlib.Logic.Function.Basic

namespace Anbox.Framework

variable {κ ι ν β : Type*}

/-- Records of several parts that stand in a store, each part under a name of its own: of the names
that count nothing else is there. -/
structure Mirror (slot : κ → ι → ν) (counts : ν → Prop) (records : κ → Option (ι → β))
    (store : ν → Option β) : Prop where
  content : ∀ {k f}, records k = some f → ∀ i, store (slot k i) = some (f i)
  only : ∀ {n}, counts n → store n ≠ none → ∃ k f i, records k = some f ∧ n = slot k i
  own : ∀ {k f k' f' i i'}, records k = some f → records k' = some f' → slot k i = slot k' i' →
    k = k' ∧ i = i'

variable {slot : κ → ι → ν} {counts : ν → Prop} {records records' : κ → Option (ι → β)}
  {store store' : ν → Option β} {k : κ} {f : ι → β}

/-- Nothing is recorded and nothing is there. -/
theorem mirror_empty_iff (empty : ∀ k, records k = none) :
    Mirror slot counts records store ↔ ∀ n, counts n → store n = none := by
  constructor
  · intro h n hn
    by_contra there
    obtain ⟨k, f, i, hk, -⟩ := h.only hn there
    rw [empty k] at hk
    cases hk
  · intro h
    refine ⟨?_, fun hn there => absurd (h _ hn) there, ?_⟩
    · intro k f hk
      rw [empty k] at hk
      cases hk
    · intro k f k' f' i i' hk
      rw [empty k] at hk
      cases hk

namespace Mirror

/-- The records determine the store. -/
theorem eq (h : Mirror slot counts records store) (h' : Mirror slot counts records store') {n : ν}
    (hn : counts n) : store n = store' n := by
  by_cases there : store n = none
  · by_contra other
    obtain ⟨k, f, i, hk, rfl⟩ := h'.only hn fun none => other (there.trans none.symm)
    rw [h.content hk] at there
    cases there
  · obtain ⟨k, f, i, hk, rfl⟩ := h.only hn there
    rw [h.content hk, h'.content hk]

/-- A record that is kept keeps its parts. -/
theorem kept (h : Mirror slot counts records store) (h' : Mirror slot counts records' store')
    (hk : records k = some f) (hk' : records' k = some f) (i : ι) : store' (slot k i) = store (slot k i) := by
  rw [h.content hk, h'.content hk']

/-- With the same records, the store is the same. -/
theorem unchanged_iff (h : Mirror slot counts records store) (inside : ∀ k i, counts (slot k i)) :
    Mirror slot counts records store' ↔ ∀ n, counts n → store' n = store n := by
  constructor
  · intro h' n hn
    exact h'.eq h hn
  · intro same
    refine ⟨?_, ?_, h.own⟩
    · intro k f hk i
      rw [same _ (inside k i), h.content hk]
    · intro n hn there
      exact h.only hn (same n hn ▸ there)

variable [DecidableEq κ]

/-- A record is written: the store mirrors it if its parts are there, under names of their own. -/
theorem store_iff (h : Mirror slot counts records store)
    (off : ∀ n, (∀ i, n ≠ slot k i) → store' n = store n) :
    Mirror slot counts (Function.update records k (some f)) store' ↔
      (∀ i, store' (slot k i) = some (f i)) ∧ Function.Injective (slot k) ∧
        ∀ k', k' ≠ k → records k' ≠ none → ∀ i i', slot k i ≠ slot k' i' := by
  have new : Function.update records k (some f) k = some f := Function.update_self k (some f) records
  have old : ∀ {k'}, k' ≠ k → Function.update records k (some f) k' = records k' :=
    fun other => Function.update_of_ne other (some f) records
  constructor
  · intro h'
    refine ⟨fun i => h'.content new i, fun i i' same => (h'.own new new same).2, ?_⟩
    intro k' other there i i' same
    obtain ⟨f', hf'⟩ := Option.ne_none_iff_exists'.mp there
    exact other (h'.own new ((old other).trans hf') same).1.symm
  · intro ⟨whole, apart, others⟩
    have away : ∀ {k' f'}, k' ≠ k → records k' = some f' → ∀ i i', slot k' i' ≠ slot k i := by
      intro k' f' other hk' i i' same
      exact others k' other (hk' ▸ Option.some_ne_none f') i i' same.symm
    refine ⟨?_, ?_, ?_⟩
    · intro k' f' hk' i
      by_cases same : k' = k
      · subst same
        rw [new] at hk'
        rw [whole i, Option.some.inj hk']
      · rw [old same] at hk'
        rw [off _ fun j => away same hk' j i, h.content hk']
    · intro n hn there
      by_cases mine : ∃ i, n = slot k i
      · obtain ⟨i, hi⟩ := mine
        exact ⟨k, f, i, new, hi⟩
      · rw [off n fun i hi => mine ⟨i, hi⟩] at there
        obtain ⟨k', f', i, hk', hi⟩ := h.only hn there
        by_cases same : k' = k
        · exact absurd ⟨i, same ▸ hi⟩ mine
        · exact ⟨k', f', i, (old same).trans hk', hi⟩
    · intro k₁ f₁ k₂ f₂ i₁ i₂ h₁ h₂ same
      by_cases first : k₁ = k
      · by_cases second : k₂ = k
        · subst first second
          exact ⟨rfl, apart same⟩
        · rw [old second] at h₂
          subst first
          exact absurd same.symm (away second h₂ i₁ i₂)
      · rw [old first] at h₁
        by_cases second : k₂ = k
        · subst second
          exact absurd same (away first h₁ i₂ i₁)
        · rw [old second] at h₂
          exact h.own h₁ h₂ same

/-- A record is taken out: the store mirrors that if its parts are gone. -/
theorem remove_iff (h : Mirror slot counts records store) (inside : ∀ k i, counts (slot k i))
    (hk : records k = some f) (off : ∀ n, (∀ i, n ≠ slot k i) → store' n = store n) :
    Mirror slot counts (Function.update records k none) store' ↔ ∀ i, store' (slot k i) = none := by
  have gone : Function.update records k none k = none := Function.update_self k none records
  have old : ∀ {k'}, k' ≠ k → Function.update records k none k' = records k' :=
    fun other => Function.update_of_ne other none records
  have left : ∀ {k' f'}, Function.update records k none k' = some f' → k' ≠ k ∧ records k' = some f' := by
    intro k' f' hk'
    have other : k' ≠ k := by
      intro same
      subst same
      rw [gone] at hk'
      cases hk'
    exact ⟨other, (old other).symm.trans hk'⟩
  constructor
  · intro h' i
    by_contra there
    obtain ⟨k', f', i', hk', same⟩ := h'.only (inside k i) there
    obtain ⟨other, hk'⟩ := left hk'
    exact other (h.own hk hk' same).1.symm
  · intro empty
    refine ⟨?_, ?_, ?_⟩
    · intro k' f' hk' i
      obtain ⟨other, hk'⟩ := left hk'
      rw [off _ fun j same => other (h.own hk' hk same).1, h.content hk']
    · intro n hn there
      have away : ∀ i, n ≠ slot k i := by
        intro i same
        subst same
        exact there (empty i)
      rw [off n away] at there
      obtain ⟨k', f', i, hk', rfl⟩ := h.only hn there
      have other : k' ≠ k := by
        intro same
        subst same
        exact away i rfl
      exact ⟨k', f', i, (old other).trans hk', rfl⟩
    · intro k₁ f₁ k₂ f₂ i₁ i₂ h₁ h₂ same
      exact h.own (left h₁).2 (left h₂).2 same

end Mirror

end Anbox.Framework
