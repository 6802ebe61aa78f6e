import Mathlib.Data.List.Basic
import Mathlib.Logic.Function.Basic

namespace Anbox.Framework

variable {K V α β : Type*} [DecidableEq K]

/-! What is written under a key last is what stands there. -/

/-- The last element under a key. -/
def latest (key : α → K) (k : K) (as : List α) : Option α := as.reverse.find? fun a => key a = k

/-- Elements are written over what there is, each under its key. -/
def overwrite (key : α → K) (value : α → V) (f : K → Option V) (as : List α) : K → Option V :=
  as.foldl (fun f a => Function.update f (key a) (some (value a))) f

variable {key : α → K} {value : α → V} {k : K}

/-- What is not written at `k` stands elsewhere, as before. -/
theorem update_eq_iff_of_ne {f : K → V} {v w : V} (ne : v ≠ w) (j : K) :
    Function.update f k v j = w ↔ j ≠ k ∧ f j = w := by
  by_cases same : j = k
  · subst same
    simp [ne]
  · simp [same]

@[simp] theorem latest_nil : latest key k ([] : List α) = none := rfl

theorem latest_append (as bs : List α) :
    latest key k (as ++ bs) = (latest key k bs).or (latest key k as) := by
  unfold latest
  rw [List.reverse_append, List.find?_append]

theorem latest_map (g : β → α) (bs : List β) :
    latest key k (bs.map g) = (latest (fun b => key (g b)) k bs).map g := by
  unfold latest
  rw [← List.map_reverse, List.find?_map]
  rfl

theorem latest_eq_none {as : List α} : latest key k as = none ↔ ∀ a ∈ as, key a ≠ k := by
  simp [latest]

/-- Where none under the key is left out, the last of those that are kept is the last of all. -/
theorem latest_filter {p : α → Bool} {as : List α} (h : ∀ a ∈ as, key a = k → p a = true) :
    latest key k (as.filter p) = latest key k as := by
  unfold latest
  induction as with
  | nil => rfl
  | cons a as ih =>
    have back := ih fun b hb => h b (List.mem_cons_of_mem a hb)
    rw [List.reverse_cons, List.find?_append, ← back, List.filter_cons]
    by_cases hk : key a = k
    · rw [if_pos (h a List.mem_cons_self hk), List.reverse_cons, List.find?_append]
    · split_ifs
      · rw [List.reverse_cons, List.find?_append]
      · simp [hk]

/-- An element with none of its key behind it is the last one. -/
theorem latest_of_getElem {as : List α} {i : Nat} {a : α} (hi : as[i]? = some a)
    (ha : key a = k) (h : ∀ (j : Nat) (b : α), as[j]? = some b → key b = k → j ≤ i) :
    latest key k as = some a := by
  subst ha
  obtain ⟨bound, at_⟩ := List.getElem?_eq_some_iff.mp hi
  have cut : as = as.take i ++ a :: as.drop (i + 1) := by
    rw [← at_, List.getElem_cons_drop, List.take_append_drop]
  have behind : latest key (key a) (as.drop (i + 1)) = none := by
    rw [latest_eq_none]
    intro b hb same
    obtain ⟨j, hj, rfl⟩ := List.getElem_of_mem hb
    rw [List.getElem_drop] at same
    have before := h (i + 1 + j) _ (List.getElem?_eq_getElem _) same
    omega
  have front : latest key (key a) [a] = some a := by simp [latest]
  rw [cut, ← List.singleton_append, latest_append, latest_append, behind, front]
  rfl

theorem overwrite_apply (f : K → Option V) (as : List α) :
    overwrite key value f as k = ((latest key k as).map value).or (f k) := by
  unfold overwrite latest
  induction as generalizing f with
  | nil => simp
  | cons a as ih =>
    rw [List.foldl_cons, ih, List.reverse_cons, List.find?_append, Option.map_or, Option.or_assoc]
    by_cases hk : key a = k
    · simp [hk]
    · simp [hk, Function.update_of_ne (Ne.symm hk)]

end Anbox.Framework
