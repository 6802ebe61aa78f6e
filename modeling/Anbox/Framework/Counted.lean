import Mathlib.Data.List.Basic

namespace Anbox.Framework

variable {α β ω : Type*}

/-! Lists that are read off an input after their number. -/

/-- A reader that cannot fail is applied a number of times. -/
def readMany (read : List ω → α × List ω) : Nat → List ω → List α × List ω
  | 0, input => ([], input)
  | n+1, input =>
    ((read input).1 :: (readMany read n (read input).2).1, (readMany read n (read input).2).2)

variable {read : List ω → α × List ω}

/-- As many are read as are announced, whatever there is to read. -/
theorem length_readMany (n : Nat) (input : List ω) : (readMany read n input).1.length = n := by
  induction n generalizing input with
  | zero => rfl
  | succ n ih => rw [readMany, List.length_cons, ih]

theorem readMany_append {write : β → List ω} {value : β → α} {bs : List β}
    (h : ∀ b ∈ bs, ∀ rest, read (write b ++ rest) = (value b, rest)) (rest : List ω) :
    readMany read bs.length (bs.flatMap write ++ rest) = (bs.map value, rest) := by
  induction bs with
  | nil => rfl
  | cons b bs ih =>
    have front := h b List.mem_cons_self (bs.flatMap write ++ rest)
    have back := ih fun b hb => h b (List.mem_cons_of_mem _ hb)
    rw [List.length_cons, List.flatMap_cons, List.append_assoc, readMany, front, back, List.map_cons]

/-- A loop of writers that can fail comes to its end when none of them does. -/
theorem isSome_of_mapM {f : β → Option α} {bs : List β} {as : List α} (h : bs.mapM f = some as) :
    ∀ b ∈ bs, (f b).isSome := by
  induction bs generalizing as with
  | nil => simp
  | cons b bs ih =>
    rw [List.mapM_cons, Option.bind_eq_bind, Option.bind_eq_some_iff] at h
    obtain ⟨a, front, h⟩ := h
    rw [Option.bind_eq_bind, Option.bind_eq_some_iff] at h
    obtain ⟨as, back, _⟩ := h
    intro c hc
    cases List.mem_cons.mp hc with
    | inl same => rw [same, front, Option.isSome_some]
    | inr there => exact ih back c there

theorem length_of_mapM {f : β → Option α} {bs : List β} {as : List α} (h : bs.mapM f = some as) :
    as.length = bs.length := by
  induction bs generalizing as with
  | nil =>
    obtain rfl := Option.some.inj h
    rfl
  | cons b bs ih =>
    rw [List.mapM_cons, Option.bind_eq_bind, Option.bind_eq_some_iff] at h
    obtain ⟨a, -, h⟩ := h
    rw [Option.bind_eq_bind, Option.bind_eq_some_iff] at h
    obtain ⟨later, back, h⟩ := h
    obtain rfl := Option.some.inj h
    rw [List.length_cons, List.length_cons, ih back]

end Anbox.Framework
