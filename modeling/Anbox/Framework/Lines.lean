import Anbox.Framework.Framing

namespace Anbox.Framework

variable {β : Type*} (stop : β → Bool)

/-- The line in front of the first terminator, and what is behind that. -/
def nextLine : List β → Option (List β × List β)
  | [] => none
  | x :: b =>
    if stop x then some ([], b)
    else (nextLine b).map fun p => (x :: p.1, p.2)

variable {stop}

theorem nextLine_some {b l r : List β} : nextLine stop b = some (l, r) ↔
    ∃ x, stop x = true ∧ b = l ++ x :: r ∧ ∀ y ∈ l, stop y = false := by
  induction b generalizing l with
  | nil => simp [nextLine]
  | cons x b ih =>
    rw [nextLine]
    split_ifs with hx
    · constructor
      · intro h
        obtain ⟨rfl, rfl⟩ := Prod.mk.inj (Option.some.inj h)
        exact ⟨x, hx, rfl, nofun⟩
      · intro h
        obtain ⟨y, hy, cut, plain⟩ := h
        cases l with
        | nil =>
          obtain ⟨-, rfl⟩ := List.cons.inj cut
          rfl
        | cons z l =>
          obtain ⟨rfl, -⟩ := List.cons.inj cut
          rw [plain x List.mem_cons_self] at hx
          cases hx
    · rw [Option.map_eq_some_iff]
      constructor
      · intro h
        obtain ⟨p, hp, same⟩ := h
        obtain ⟨rfl, rfl⟩ := Prod.mk.inj same
        obtain ⟨y, hy, rfl, plain⟩ := ih.mp hp
        refine ⟨y, hy, rfl, ?_⟩
        intro z hz
        cases List.mem_cons.mp hz with
        | inl first => exact first ▸ (Bool.not_eq_true _).mp hx
        | inr hz => exact plain z hz
      · intro h
        obtain ⟨y, hy, cut, plain⟩ := h
        cases l with
        | nil =>
          obtain ⟨rfl, -⟩ := List.cons.inj cut
          exact absurd hy hx
        | cons z l =>
          obtain ⟨rfl, rfl⟩ := List.cons.inj cut
          exact ⟨(l, r), ih.mpr ⟨y, hy, rfl, fun w hw => plain w (List.mem_cons_of_mem x hw)⟩, rfl⟩

theorem nextLine_none {b : List β} : nextLine stop b = none ↔ ∀ x ∈ b, stop x = false := by
  induction b with
  | nil => simp [nextLine]
  | cons x b ih =>
    rw [nextLine, List.forall_mem_cons, ← ih]
    split_ifs with hx
    · simp [hx]
    · simp [hx]

variable (stop) in
/-- Lines, each without its terminator. -/
def lines : FrameReader β (List β) where
  next := nextLine stop
  next_length := by
    intro b l r h
    obtain ⟨x, -, rfl, -⟩ := nextLine_some.mp h
    rw [List.length_append, List.length_cons]
    omega
  next_append := by
    intro b l r c h
    obtain ⟨x, hx, rfl, plain⟩ := nextLine_some.mp h
    refine nextLine_some.mpr ⟨x, hx, ?_, plain⟩
    rw [List.append_assoc, List.cons_append]

/-- A text is some lines, each with its terminator, and a rest that has none. -/
inductive IsLines (stop : β → Bool) : List β → List (List β) → List β → Prop where
  | rest {r : List β} (plain : ∀ x ∈ r, stop x = false) : IsLines stop r [] r
  | line {l b r : List β} {ls : List (List β)} {x : β} (plain : ∀ y ∈ l, stop y = false)
      (hx : stop x = true) (later : IsLines stop b ls r) : IsLines stop (l ++ x :: b) (l :: ls) r

theorem isLines_lines (b : List β) : IsLines stop b ((lines stop).frames b) ((lines stop).rest b) := by
  induction b using (lines stop).induction_frames with
  | none b h =>
    rw [FrameReader.frames_none h, FrameReader.rest_none h]
    exact .rest (nextLine_none.mp h)
  | some b l r h ih =>
    obtain ⟨x, hx, rfl, plain⟩ := nextLine_some.mp h
    rw [FrameReader.frames_some h, FrameReader.rest_some h]
    exact .line plain hx ih

theorem rest_plain (b : List β) : ∀ x ∈ (lines stop).rest b, stop x = false :=
  nextLine_none.mp (FrameReader.next_rest (R := lines stop) b)

/-- No rest is left exactly behind a terminator. -/
theorem rest_eq_nil {b : List β} :
    (lines stop).rest b = [] ↔ ∀ x ∈ b.getLast?, stop x = true := by
  induction b using (lines stop).induction_frames with
  | none b h =>
    rw [FrameReader.rest_none h]
    constructor
    · rintro rfl
      exact nofun
    · intro last
      by_contra ne
      have plain := nextLine_none.mp h _ (List.getLast_mem ne)
      rw [last _ (List.getLast?_eq_some_getLast ne)] at plain
      cases plain
  | some b l r h ih =>
    obtain ⟨x, hx, rfl, -⟩ := nextLine_some.mp h
    rw [FrameReader.rest_some h, ih, List.getLast?_append, List.getLast?_cons]
    cases hr : r.getLast? with
    | none => simp [hx]
    | some y => simp

end Anbox.Framework
