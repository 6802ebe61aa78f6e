import Mathlib.Data.List.Basic
import Mathlib.Logic.Function.Basic

namespace Anbox.Framework

/-! Settings under keys, of which some hold a list that grows with each item. -/

variable {κ ν : Type*} [DecidableEq κ] (listValued : κ → Bool)

/-- An item under a list-valued key is appended, another one replaces what is there. -/
def setItem (c : κ → List ν) (item : κ × ν) : κ → List ν :=
  Function.update c item.1 (if listValued item.1 then c item.1 ++ [item.2] else [item.2])

def setItems (c : κ → List ν) (items : List (κ × ν)) : κ → List ν :=
  items.foldl (setItem listValued) c

/-- Nothing stays of what was under the key before. -/
def Replaces (items : List (κ × ν)) (k : κ) : Prop :=
  listValued k = false ∧ k ∈ items.map Prod.fst

variable {listValued}

theorem setItem_self (c : κ → List ν) (item : κ × ν) : setItem listValued c item item.1 =
    if listValued item.1 then c item.1 ++ [item.2] else [item.2] :=
  Function.update_self _ _ _

theorem setItem_other {c : κ → List ν} {item : κ × ν} {k : κ} (h : k ≠ item.1) :
    setItem listValued c item k = c k :=
  Function.update_of_ne h _ _

theorem setItems_cons (c : κ → List ν) (item : κ × ν) (items : List (κ × ν)) :
    setItems listValued c (item :: items) =
      setItems listValued (setItem listValued c item) items :=
  rfl

theorem setItems_other {c : κ → List ν} {items : List (κ × ν)} {k : κ}
    (h : k ∉ items.map Prod.fst) : setItems listValued c items k = c k := by
  induction items generalizing c with
  | nil => rfl
  | cons item items ih =>
    rw [List.map_cons, List.mem_cons, not_or] at h
    rw [setItems_cons, ih h.2, setItem_other h.1]

theorem setItems_list {k : κ} (h : listValued k = true) (c : κ → List ν)
    (items : List (κ × ν)) :
    setItems listValued c items k = c k ++ setItems listValued (fun _ => []) items k := by
  induction items generalizing c with
  | nil => exact (List.append_nil _).symm
  | cons item items ih =>
    rw [setItems_cons, setItems_cons, ih, ih (setItem listValued (fun _ => []) item)]
    by_cases hk : k = item.1
    · subst hk
      simp [setItem_self, h]
    · simp [setItem_other hk]

/-- What is under a key depends on what was under it alone. -/
theorem setItems_congr {c d : κ → List ν} {k : κ} (h : c k = d k) (items : List (κ × ν)) :
    setItems listValued c items k = setItems listValued d items k := by
  induction items generalizing c d with
  | nil => exact h
  | cons item items ih =>
    rw [setItems_cons, setItems_cons]
    apply ih
    by_cases hk : k = item.1
    · subst hk
      simp [setItem_self, h]
    · rw [setItem_other hk, setItem_other hk, h]

theorem setItems_replaced {items : List (κ × ν)} {k : κ} (h : Replaces listValued items k)
    (c d : κ → List ν) : setItems listValued c items k = setItems listValued d items k := by
  obtain ⟨single, mem⟩ := h
  induction items generalizing c d with
  | nil => cases mem
  | cons item items ih =>
    rw [setItems_cons, setItems_cons]
    by_cases hk : k = item.1
    · subst hk
      apply setItems_congr
      simp [setItem_self, single]
    · have rest : k ∈ items.map Prod.fst := by simpa [hk] using mem
      exact ih _ _ rest

/-- Items set on top of others come to what they come to alone exactly when all that was there is
replaced. -/
theorem setItems_eq_iff {c : κ → List ν} {items : List (κ × ν)} :
    setItems listValued c items = setItems listValued (fun _ => []) items ↔
      ∀ k, ¬ Replaces listValued items k → c k = [] := by
  constructor
  · intro same k stays
    have at_k := congrFun same k
    by_cases list : listValued k = true
    · rw [setItems_list list] at at_k
      exact List.append_left_eq_self.mp at_k
    · have other : k ∉ items.map Prod.fst := fun mem => stays ⟨by simpa using list, mem⟩
      rwa [setItems_other other, setItems_other other] at at_k
  · intro none
    funext k
    by_cases replaced : Replaces listValued items k
    · exact setItems_replaced replaced _ _
    · exact setItems_congr (none k replaced) items

theorem setItems_eq_nil_iff {c : κ → List ν} {items : List (κ × ν)} {k : κ} :
    setItems listValued c items k = [] ↔ c k = [] ∧ k ∉ items.map Prod.fst := by
  induction items generalizing c with
  | nil => simp [setItems]
  | cons item items ih =>
    rw [setItems_cons, ih, List.map_cons, List.mem_cons, not_or]
    by_cases hk : k = item.1
    · subst hk
      cases h : listValued item.1 <;> simp [setItem_self, h]
    · simp [setItem_other hk, hk]

end Anbox.Framework
