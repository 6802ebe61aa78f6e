import Mathlib.Data.List.AList
import Mathlib.Data.List.Nodup

namespace Anbox.Framework

variable {K V : Type*}

/-- What a table holds, in the order of its entries. -/
def values (m : AList fun _ : K => V) : List V := m.entries.map Sigma.snd

@[simp] theorem values_empty : values (∅ : AList fun _ : K => V) = [] := rfl

theorem values_eq_nil {m : AList fun _ : K => V} : values m = [] ↔ m = ∅ := by
  constructor
  · intro h
    apply AList.ext
    exact List.map_eq_nil_iff.mp h
  · intro h
    rw [h, values_empty]

variable [DecidableEq K]

theorem mem_values {m : AList fun _ : K => V} {v : V} :
    v ∈ values m ↔ ∃ k, m.lookup k = some v := by
  constructor
  · intro h
    obtain ⟨e, he, rfl⟩ := List.mem_map.mp h
    exact ⟨e.1, AList.mem_lookup_iff.mpr he⟩
  · intro h
    obtain ⟨k, hk⟩ := h
    exact List.mem_map.mpr ⟨⟨k, v⟩, AList.mem_lookup_iff.mp hk, rfl⟩

theorem eq_empty_iff {m : AList fun _ : K => V} : m = ∅ ↔ ∀ k, m.lookup k = none := by
  constructor
  · intro h k
    rw [h, AList.lookup_empty]
  · intro h
    rw [← values_eq_nil, List.eq_nil_iff_forall_not_mem]
    intro v hv
    obtain ⟨k, hk⟩ := mem_values.mp hv
    simp [h k] at hk

/-- A table whose entries stand under a key of their own holds nothing twice. -/
theorem values_nodup {m : AList fun _ : K => V} (key : V → Option K)
    (h : ∀ k v, m.lookup k = some v → key v = some k) : (values m).Nodup := by
  apply List.Nodup.map_on
  · intro a ha b hb hab
    have ka : key a.2 = some a.1 := h _ _ (AList.mem_lookup_iff.mpr ha)
    have kb : key b.2 = some b.1 := h _ _ (AList.mem_lookup_iff.mpr hb)
    have keys : a.1 = b.1 := by
      rw [hab, kb] at ka
      exact (Option.some.inj ka).symm
    exact Sigma.ext keys (heq_of_eq hab)
  · exact m.nodupKeys.nodup

theorem erase_of_lookup_none {m : AList fun _ : K => V} {k : K} (h : m.lookup k = none) :
    m.erase k = m := by
  apply AList.ext
  exact List.kerase_of_notMem_keys (AList.lookup_eq_none.mp h)

/-- The entries under some keys are taken out one after the other. -/
def eraseAll (m : AList fun _ : K => V) (ks : List K) : AList fun _ : K => V :=
  ks.foldl (fun m k => m.erase k) m

theorem lookup_eraseAll (m : AList fun _ : K => V) (ks : List K) (k : K) :
    (eraseAll m ks).lookup k = if k ∈ ks then none else m.lookup k := by
  induction ks generalizing m with
  | nil => simp [eraseAll]
  | cons a ks ih =>
    change (eraseAll (m.erase a) ks).lookup k = _
    rw [ih]
    by_cases hk : k ∈ ks
    · simp [hk]
    · by_cases ha : k = a
      · subst ha
        simp
      · simp [hk, ha, AList.lookup_erase_ne ha]

/-! What entries become of an update. -/

theorem ne_of_lookup {m : AList fun _ : K => V} {i k : K} {v : V} (live : m.lookup i = some v)
    (absent : m.lookup k = none) : k ≠ i := by
  rintro rfl
  rw [absent] at live
  cases live

/-- A new entry leaves the others alone. -/
theorem lookup_insert_kept {m : AList fun _ : K => V} {i k : K} {v w : V}
    (unused : m.lookup i = none) (hv : m.lookup k = some v) : (m.insert i w).lookup k = some v := by
  rwa [AList.lookup_insert_ne (ne_of_lookup hv unused).symm]

/-- Writing to an entry adds none. -/
theorem lookup_write_none {m : AList fun _ : K => V} {i k : K} {v w : V} (live : m.lookup i = some v)
    (absent : m.lookup k = none) : (m.insert i w).lookup k = none := by
  rwa [AList.lookup_insert_ne (ne_of_lookup live absent)]

theorem lookup_erase_none {m : AList fun _ : K => V} {k : K} (i : K) (absent : m.lookup k = none) :
    (m.erase i).lookup k = none := by
  by_cases hk : k = i
  · rw [hk, AList.lookup_erase]
  · rwa [AList.lookup_erase_ne hk]

theorem lookup_eraseAll_none {m : AList fun _ : K => V} {k : K} (ks : List K)
    (absent : m.lookup k = none) : (eraseAll m ks).lookup k = none := by
  rw [lookup_eraseAll, absent, ite_self]

/-- A table with a new entry shares no key with a table that does not have this one. -/
theorem disjoint_insert {W : Type*} {m : AList fun _ : K => V} {n : AList fun _ : K => W} {i : K}
    {v : V} (unused : n.lookup i = none) (k : K) (d : m.lookup k = none ∨ n.lookup k = none) :
    (m.insert i v).lookup k = none ∨ n.lookup k = none := by
  by_cases hk : k = i
  · exact Or.inr (hk ▸ unused)
  · rwa [AList.lookup_insert_ne hk]

/-! Tables that are filled entry by entry, and keep what they have. -/

def insertNew (m : AList fun _ : K => V) (k : K) (v : V) : AList fun _ : K => V :=
  match m.lookup k with
  | some _ => m
  | none => m.insert k v

theorem lookup_insertNew (m : AList fun _ : K => V) (i k : K) (v : V) :
    (insertNew m i v).lookup k = (m.lookup k).or (if i = k then some v else none) := by
  unfold insertNew
  cases h : m.lookup i with
  | some w =>
    dsimp only
    split_ifs with hk
    · rw [← hk, h, Option.some_or]
    · rw [Option.or_none]
  | none =>
    dsimp only
    split_ifs with hk
    · rw [← hk, AList.lookup_insert, h, Option.none_or]
    · rw [AList.lookup_insert_ne (Ne.symm hk), Option.or_none]

variable {α : Type*}

/-- A key stands for what comes first under it. -/
theorem lookup_foldl_insertNew (key : α → K) (value : α → V) (as : List α)
    (m : AList fun _ : K => V) (k : K) :
    (as.foldl (fun m a => insertNew m (key a) (value a)) m).lookup k =
      (m.lookup k).or ((as.find? fun a => key a = k).map value) := by
  induction as generalizing m with
  | nil => simp
  | cons a as ih =>
    rw [List.foldl_cons, ih, lookup_insertNew, Option.or_assoc]
    by_cases hk : key a = k
    · simp [hk]
    · simp [hk]

/-- A table that is filled from another one, entry by entry, has its entries. -/
theorem find_entries (m : AList fun _ : K => V) (k : K) :
    (m.entries.find? fun e => e.1 = k).map Sigma.snd = m.lookup k := by
  unfold AList.lookup
  induction m.entries with
  | nil => rfl
  | cons e es ih =>
    by_cases hk : e.1 = k
    · subst hk
      rw [List.dlookup_cons_eq, List.find?_cons_of_pos (by simp), Option.map_some]
    · rw [List.dlookup_cons_ne _ _ (Ne.symm hk), List.find?_cons_of_neg (by simpa using hk), ih]

end Anbox.Framework
