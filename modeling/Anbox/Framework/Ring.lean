import Mathlib.Data.List.Rotate

namespace Anbox.Framework

variable {α : Type*} {slots : List α} {pos count : Nat}

/-- A position that has run past the end once. -/
def wrap (size i : Nat) : Nat := if size ≤ i then i - size else i

theorem wrap_lt {size i : Nat} (h : i < 2 * size) : wrap size i < size := by
  unfold wrap
  split_ifs <;> omega

theorem wrap_eq_mod {size i : Nat} (h : i < 2 * size) : wrap size i = i % size := by
  unfold wrap
  split_ifs with hi
  · have lt : i - size < size := by omega
    rw [Nat.mod_eq_sub_mod hi, Nat.mod_eq_of_lt lt]
  · rw [Nat.mod_eq_of_lt (Nat.lt_of_not_le hi)]

/-- What a ring holds: `count` slots from `pos` on, the first slot following the last one. -/
def ring (slots : List α) (pos count : Nat) : List α := (slots.rotate pos).take count

theorem ring_length (h : count ≤ slots.length) : (ring slots pos count).length = count := by
  rw [ring, List.length_take, List.length_rotate, Nat.min_eq_left h]

/-- Writing to the slot `k` behind the first one. -/
theorem rotate_set (hp : pos < slots.length) {k : Nat} (hk : k < slots.length) (a : α) :
    (slots.set (wrap slots.length (pos + k)) a).rotate pos = (slots.rotate pos).set k a := by
  have same {i j : Nat} (hi : i < slots.length) (hj : j < slots.length) :
      (pos + i) % slots.length = (pos + j) % slots.length ↔ i = j := by
    rw [← wrap_eq_mod (by omega), ← wrap_eq_mod (by omega)]
    unfold wrap
    split_ifs <;> omega
  apply List.ext_getElem
  · simp
  · intro i hi _
    have lt : i < slots.length := by simpa using hi
    rw [List.getElem_set, List.getElem_rotate, List.getElem_set, List.getElem_rotate]
    simp only [List.length_set, wrap_eq_mod (show pos + k < 2 * slots.length by omega),
      Nat.add_comm i pos, same hk lt]

theorem ring_push (hp : pos < slots.length) (hc : count < slots.length) (a : α) :
    ring (slots.set (wrap slots.length (pos + count)) a) pos (count + 1) =
      ring slots pos count ++ [a] := by
  have hl : count < (slots.rotate pos).length := by rwa [List.length_rotate]
  rw [ring, rotate_set hp hc, List.take_add_one, List.getElem?_set_self hl, List.take_set_of_le le_rfl]
  rfl

/-- Taking the first slot, whatever is left behind in it. -/
theorem ring_pop (hp : pos < slots.length) (hc : count < slots.length) (a : α) :
    ring slots pos (count + 1) =
      slots[pos] :: ring (slots.set pos a) (wrap slots.length (pos + 1)) count := by
  have front (l : List α) (h : pos < l.length) :
      l.rotate pos = l[pos] :: (l.drop (pos + 1) ++ l.take pos) := by
    rw [List.rotate_eq_drop_append_take h.le, List.drop_eq_getElem_cons h, List.cons_append]
  have next (l : List α) (h : pos < l.length) :
      l.rotate (wrap l.length (pos + 1)) = l.drop (pos + 1) ++ l.take pos ++ [l[pos]] := by
    rw [wrap_eq_mod (by omega), List.rotate_mod, ← List.rotate_rotate, front l h]
    simp
  have hs : pos < (slots.set pos a).length := by rwa [List.length_set]
  have rest : (slots.drop (pos + 1) ++ slots.take pos).length = slots.length - 1 := by
    rw [List.length_append, List.length_drop, List.length_take]
    omega
  have untouched : (slots.set pos a).drop (pos + 1) ++ (slots.set pos a).take pos =
      slots.drop (pos + 1) ++ slots.take pos := by
    rw [List.drop_set_of_lt (Nat.lt_succ_self pos), List.take_set_of_le le_rfl]
  have after := next (slots.set pos a) hs
  rw [List.length_set, untouched] at after
  have cut (b : α) : (slots.drop (pos + 1) ++ slots.take pos ++ [b]).take count =
      (slots.drop (pos + 1) ++ slots.take pos).take count :=
    List.take_append_of_le_length (by omega)
  rw [ring, ring, after, cut, front slots hp, List.take_succ_cons]

end Anbox.Framework
