import Mathlib

namespace Anbox.Framework

/-! Integers written one after the other, with blanks between them. -/

theorem blank_notMem_repr (a : Int) : ' ' ∉ a.repr.toList := by
  have digits : ∀ n : Nat, ' ' ∉ n.repr.toList := by
    intro n blank
    rw [Nat.toList_repr] at blank
    exact absurd (Nat.isDigit_of_mem_toDigits (by decide) (by decide) blank) (by decide)
  rw [Int.repr_eq_if]
  split_ifs with nonneg
  · exact digits a.toNat
  · rw [String.toList_append, List.mem_append]
    intro blank
    cases blank with
    | inl sign => exact absurd sign (by decide)
    | inr digit => exact digits _ digit

/-- What stands in front of the first `c` can be told from the text. -/
theorem append_cons_inj {α : Type*} {c : α} {as bs xs ys : List α} (ha : c ∉ as) (hb : c ∉ bs) :
    as ++ c :: xs = bs ++ c :: ys ↔ as = bs ∧ xs = ys := by
  induction as generalizing bs with
  | nil =>
    cases bs with
    | nil => simp
    | cons b bs =>
      have hc : c ≠ b := fun h => hb (h ▸ List.mem_cons_self)
      simp [hc]
  | cons a as ih =>
    cases bs with
    | nil =>
      have hc : a ≠ c := fun h => ha (h ▸ List.mem_cons_self)
      simp [hc]
    | cons b bs =>
      have h := ih (fun h => ha (List.mem_cons_of_mem a h)) (fun h => hb (List.mem_cons_of_mem b h))
      simp only [List.cons_append, List.cons.injEq, h, and_assoc]

theorem repr_blank_inj {a b : Int} {s t : String} :
    a.repr ++ " " ++ s = b.repr ++ " " ++ t ↔ a = b ∧ s = t := by
  constructor
  · intro h
    have chars := congrArg String.toList h
    simp only [String.toList_append, List.append_assoc] at chars
    obtain ⟨front, back⟩ :=
      (append_cons_inj (blank_notMem_repr a) (blank_notMem_repr b)).mp chars
    exact ⟨Int.repr_injective (String.toList_inj.mp front), String.toList_inj.mp back⟩
  · intro ⟨hab, hst⟩
    rw [hab, hst]

end Anbox.Framework
