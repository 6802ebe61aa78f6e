import Mathlib.Data.List.Infix

namespace Anbox.Framework

variable {α : Type*}

/-- The needle does not occur earlier than behind `before`. -/
def First (needle before behind : List α) : Prop :=
  ∀ p q, p ++ needle ++ q = before ++ needle ++ behind → before.length ≤ p.length

/-- Of the occurrences of the needle, taken from the left and none into the one before, the last is at
the end. -/
inductive Ends (needle : List α) : List α → Prop where
  | last {before : List α} (first : First needle before []) : Ends needle (before ++ needle)
  | next {before behind : List α} (first : First needle before behind) (later : Ends needle behind) :
      Ends needle (before ++ needle ++ behind)

theorem First.nil (needle behind : List α) : First needle [] behind := fun _ _ _ => Nat.zero_le _

theorem first_cons {needle before behind : List α} {c : α} : First needle (c :: before) behind ↔
    ¬ needle <+: c :: before ++ needle ++ behind ∧ First needle before behind := by
  constructor
  · intro h
    constructor
    · intro given
      obtain ⟨q, hq⟩ := given
      exact absurd (h [] q hq) (Nat.not_succ_le_zero _)
    · intro p q same
      have longer := h (c :: p) q (congrArg (List.cons c) same)
      exact Nat.le_of_succ_le_succ longer
  · intro given p q same
    obtain ⟨none, later⟩ := given
    cases p with
    | nil => exact absurd ⟨q, same⟩ none
    | cons d p =>
      have tail := (List.cons.inj same).2
      exact Nat.succ_le_succ (later p q tail)

theorem Ends.suffix {needle t : List α} (h : Ends needle t) : needle <:+ t := by
  induction h with
  | last first => exact List.suffix_append _ _
  | next first later ih => exact ih.trans (List.suffix_append _ _)

theorem ends_self (needle : List α) : Ends needle needle := .last (First.nil needle [])

variable [DecidableEq α]

/-- The text from the first occurrence of the needle on. -/
def fromFirst (needle : List α) : List α → Option (List α)
  | [] => if needle = [] then some [] else none
  | c :: cs => if needle <+: c :: cs then some (c :: cs) else fromFirst needle cs

theorem fromFirst_eq_some {needle t u : List α} : fromFirst needle t = some u ↔
    ∃ before behind, t = before ++ needle ++ behind ∧ u = needle ++ behind ∧
      First needle before behind := by
  induction t with
  | nil =>
    rw [fromFirst, Option.ite_none_right_eq_some]
    constructor
    · intro given
      obtain ⟨rfl, same⟩ := given
      obtain rfl := Option.some.inj same
      exact ⟨[], [], rfl, rfl, First.nil _ _⟩
    · intro given
      obtain ⟨before, behind, split, rfl, -⟩ := given
      obtain ⟨front, rfl⟩ := List.append_eq_nil_iff.mp split.symm
      obtain ⟨rfl, rfl⟩ := List.append_eq_nil_iff.mp front
      exact ⟨rfl, rfl⟩
  | cons c cs ih =>
    rw [fromFirst]
    split_ifs with begins
    · constructor
      · intro same
        obtain rfl := Option.some.inj same
        obtain ⟨behind, cut⟩ := begins
        exact ⟨[], behind, cut.symm, cut.symm, First.nil _ _⟩
      · intro given
        obtain ⟨before, behind, split, rfl, first⟩ := given
        cases before with
        | nil => rw [split, List.nil_append]
        | cons d before =>
          obtain ⟨none, -⟩ := first_cons.mp first
          exact absurd (split ▸ begins) none
    · rw [ih]
      constructor
      · intro given
        obtain ⟨before, behind, rfl, rfl, first⟩ := given
        exact ⟨c :: before, behind, rfl, rfl, first_cons.mpr ⟨begins, first⟩⟩
      · intro given
        obtain ⟨before, behind, split, rfl, first⟩ := given
        cases before with
        | nil => exact absurd (split ▸ List.prefix_append needle behind) begins
        | cons d before =>
          obtain ⟨rfl, rfl⟩ := List.cons.inj split
          exact ⟨before, behind, rfl, rfl, (first_cons.mp first).2⟩

theorem fromFirst_eq_none {needle t : List α} :
    fromFirst needle t = none ↔ ¬ needle <:+: t := by
  induction t with
  | nil => simp [fromFirst]
  | cons c cs ih =>
    rw [fromFirst, List.infix_cons_iff, not_or, ← ih]
    split_ifs with begins
    · simp [begins]
    · simp [begins]

/-- What is behind the first occurrence decides. -/
theorem ends_iff {needle t u : List α} (h : fromFirst needle t = some (needle ++ u)) :
    Ends needle t ↔ u = [] ∨ Ends needle u := by
  constructor
  · intro ends
    cases ends with
    | @last before first =>
      have found := fromFirst_eq_some.mpr ⟨before, [], (List.append_nil _).symm, rfl, first⟩
      rw [found] at h
      exact Or.inl (List.append_cancel_left (Option.some.inj h)).symm
    | @next before behind first later =>
      have found := fromFirst_eq_some.mpr ⟨before, behind, rfl, rfl, first⟩
      rw [found] at h
      obtain rfl := List.append_cancel_left (Option.some.inj h)
      exact Or.inr later
  · obtain ⟨before, behind, rfl, same, first⟩ := fromFirst_eq_some.mp h
    obtain rfl := List.append_cancel_left same
    intro given
    obtain rfl | later := given
    · rw [List.append_nil]
      exact .last first
    · exact .next first later

theorem not_ends_of_none {needle t : List α} (h : fromFirst needle t = none) : ¬ Ends needle t := by
  intro ends
  exact fromFirst_eq_none.mp h ends.suffix.isInfix

/-- Where the needle cannot begin inside itself, it is enough that it is at the end. -/
theorem ends_of_suffix {needle t : List α} (some_ : needle ≠ [])
    (apart : ∀ k, 0 < k → k < needle.length → ¬ needle.drop k <+: needle)
    (h : needle <:+ t) : Ends needle t := by
  induction n : t.length using Nat.strongRecOn generalizing t with
  | ind n ih =>
    subst n
    cases found : fromFirst needle t with
    | none => exact absurd h.isInfix (fromFirst_eq_none.mp found)
    | some u =>
      obtain ⟨before, behind, rfl, rfl, first⟩ := fromFirst_eq_some.mp found
      rw [ends_iff found]
      obtain ⟨front, split⟩ := h
      have le := first front [] (by rw [List.append_nil, split])
      obtain ⟨gap, rfl⟩ : before <+: front :=
        List.prefix_of_prefix_length_le ⟨needle ++ behind, (List.append_assoc _ _ _).symm⟩
          (split ▸ List.prefix_append _ _) le
      have meet : gap ++ needle = needle ++ behind := by
        simpa only [List.append_assoc, List.append_cancel_left_eq] using split
      obtain ⟨tail, whole, again⟩ | ⟨between, -, rfl⟩ := List.append_eq_append_iff.mp meet
      · by_cases none : gap = []
        · subst none
          exact Or.inl (by simpa using meet)
        by_cases touching : tail = []
        · subst touching
          exact Or.inr (again ▸ ends_self needle)
        -- The two would lie over each other.
        have start : needle.drop gap.length = tail := by rw [whole, List.drop_left]
        refine absurd ?_ (apart gap.length (List.length_pos_iff.mpr none) ?_)
        · rw [start]
          exact ⟨behind, again.symm⟩
        · rw [whole, List.length_append]
          exact Nat.lt_add_of_pos_right (List.length_pos_iff.mpr touching)
      · refine Or.inr (ih _ ?_ (List.suffix_append _ _) rfl)
        have long := List.length_pos_iff.mpr some_
        simp only [List.length_append]
        omega

omit [DecidableEq α] in
/-- What has no separator in it and begins in front of one is there as a whole. -/
theorem prefix_separated {needle t rest : List α} {z : α} (plain : z ∉ needle) :
    needle <+: t ++ z :: rest ↔ needle <+: t := by
  constructor
  · intro h
    obtain short | ⟨tail, rfl⟩ := List.prefix_or_prefix_of_prefix h (List.prefix_append t (z :: rest))
    · exact short
    · cases tail with
      | nil => rw [List.append_nil]
      | cons a tail =>
        obtain ⟨rfl, -⟩ := List.cons_prefix_cons.mp ((List.prefix_append_right_inj t).mp h)
        exact absurd (List.mem_append_right t List.mem_cons_self) plain
  · intro h
    exact h.trans (List.prefix_append _ _)

/-- A needle without the separator is looked for in the parts, one after the other. -/
theorem fromFirst_separated {needle t rest : List α} {z : α} (plain : z ∉ needle)
    (some_ : needle ≠ []) : fromFirst needle (t ++ z :: rest) =
      match fromFirst needle t with
      | some u => some (u ++ z :: rest)
      | none => fromFirst needle rest := by
  induction t with
  | nil =>
    have other : ¬ needle <+: z :: rest := by
      intro h
      exact some_ (List.prefix_nil.mp ((prefix_separated (t := []) plain).mp h))
    simp only [List.nil_append, fromFirst, if_neg other, if_neg some_]
  | cons c t ih =>
    rw [List.cons_append, fromFirst, fromFirst, ← List.cons_append]
    by_cases begins : needle <+: c :: t
    · rw [if_pos begins, if_pos ((prefix_separated plain).mpr begins)]
    · rw [if_neg begins, if_neg (mt (prefix_separated plain).mp begins), ih]

end Anbox.Framework
