import Mathlib.Data.List.AList

namespace Anbox.Framework

variable {K V : Type*} [DecidableEq K]

/-- A value is put behind the others that stand under its key. -/
def push (m : AList fun _ : K => List V) (k : K) (v : V) : AList fun _ : K => List V :=
  match m.lookup k with
  | none => m.insert k [v]
  | some vs => m.insert k (vs ++ [v])

/-- Values by their keys; those without a key are left out. -/
def group (key : V → Option K) (vs : List V) (m : AList fun _ : K => List V) :
    AList fun _ : K => List V :=
  vs.foldl (fun m v => match key v with
    | none => m
    | some k => push m k v) m

/-- A group that is not there has no members. -/
def members (m : AList fun _ : K => List V) (k : K) : List V := (m.lookup k).getD []

theorem lookup_push (m : AList fun _ : K => List V) (i k : K) (v : V) :
    (push m i v).lookup k = if i = k then some (members m k ++ [v]) else m.lookup k := by
  unfold push members
  split_ifs with same
  · subst same
    cases m.lookup i <;> simp
  · cases m.lookup i with
    | none => exact AList.lookup_insert_ne (Ne.symm same)
    | some vs => exact AList.lookup_insert_ne (Ne.symm same)

theorem members_push (m : AList fun _ : K => List V) (i k : K) (v : V) :
    members (push m i v) k = members m k ++ if i = k then [v] else [] := by
  rw [members, lookup_push]
  split_ifs
  · rfl
  · rw [List.append_nil, members]

/-- A group has the values with its key, in their order. -/
theorem members_group (key : V → Option K) (vs : List V) (m : AList fun _ : K => List V) (k : K) :
    members (group key vs m) k = members m k ++ vs.filter fun v => key v = some k := by
  induction vs generalizing m with
  | nil => simp [group]
  | cons v vs ih =>
    rw [group, List.foldl_cons]
    change members (group key vs _) k = _
    rw [ih]
    cases hv : key v with
    | none => simp [hv]
    | some i =>
      by_cases same : i = k
      · simp [hv, same, members_push]
      · simp [hv, same, members_push]

/-- A key that is taken up has a value. -/
theorem mem_group {key : V → Option K} {vs : List V} {m : AList fun _ : K => List V} {k : K}
    (h : k ∈ group key vs m) : k ∈ m ∨ ∃ v ∈ vs, key v = some k := by
  induction vs generalizing m with
  | nil => exact Or.inl h
  | cons v vs ih =>
    rw [group, List.foldl_cons] at h
    cases ih h with
    | inr h =>
      obtain ⟨w, hw, same⟩ := h
      exact Or.inr ⟨w, List.mem_cons_of_mem v hw, same⟩
    | inl h =>
      cases hv : key v with
      | none =>
        rw [hv] at h
        exact Or.inl h
      | some i =>
        rw [hv] at h
        by_cases same : i = k
        · exact Or.inr ⟨v, List.mem_cons_self, hv.trans (congrArg some same)⟩
        · refine Or.inl ?_
          rw [← AList.lookup_isSome] at h ⊢
          rwa [lookup_push, if_neg same] at h

end Anbox.Framework
