import Mathlib.Data.List.Basic

namespace Anbox.Framework

variable {α : Type*} [DecidableEq α] (sep : α)

/-- Separators next to each other are merged. -/
def merge : List α → List α
  | c :: d :: rest => if c = sep ∧ d = sep then merge (d :: rest) else c :: merge (d :: rest)
  | rest => rest

/-- What stands between separators, without what is empty. -/
def tokens (text : List α) : List (List α) := (text.splitOn sep).filter (· ≠ [])

variable {sep} {text : List α} {c : α}

theorem sep_notMem_splitOn {t : List α} (h : t ∈ text.splitOn sep) : sep ∉ t := by
  induction text generalizing t with
  | nil =>
    obtain rfl := List.mem_singleton.mp h
    exact List.not_mem_nil
  | cons c text ih =>
    rw [List.splitOn_cons_eq_if_modifyHead] at h
    split_ifs at h with same
    · obtain rfl | later := List.mem_cons.mp h
      · exact List.not_mem_nil
      · exact ih later
    · obtain ⟨front, more, split⟩ := List.exists_cons_of_ne_nil (List.splitOn_ne_nil sep text)
      rw [split] at h ih
      obtain rfl | later := List.mem_cons.mp h
      · intro inside
        obtain rfl | behind := List.mem_cons.mp inside
        · exact same (beq_self_eq_true _)
        · exact ih List.mem_cons_self behind
      · exact ih (List.mem_cons_of_mem _ later)

theorem mem_tokens {t : List α} (h : t ∈ tokens sep text) : t ≠ [] ∧ sep ∉ t := by
  obtain ⟨inside, ne⟩ := List.mem_filter.mp h
  exact ⟨of_decide_eq_true ne, sep_notMem_splitOn inside⟩

theorem tokens_cons_sep (text : List α) : tokens sep (sep :: text) = tokens sep text := by
  rw [tokens, List.splitOn_cons_eq_if_modifyHead, if_pos (beq_self_eq_true sep)]
  rfl

/-- A character that is no separator goes to the front of what comes first. -/
theorem splitOn_cons_of_ne (h : c ≠ sep) (text : List α) :
    (c :: text).splitOn sep = (text.splitOn sep).modifyHead (c :: ·) := by
  rw [List.splitOn_cons_eq_if_modifyHead, if_neg (mt beq_iff_eq.mp h)]

/-- The tokens of a text, with an empty one in front when it begins with a separator. -/
def led (sep : α) (text : List α) : List (List α) :=
  (if text.head?.getD sep = sep then [[]] else []) ++ tokens sep text

theorem led_cons_of_ne (h : c ≠ sep) (d : α) (rest : List α) : ∃ front more,
    led sep (d :: rest) = front :: more ∧ led sep (c :: d :: rest) = (c :: front) :: more := by
  have plain : led sep (c :: d :: rest) = tokens sep (c :: d :: rest) := by simp [led, h]
  obtain ⟨front, more, split⟩ := List.exists_cons_of_ne_nil (List.splitOn_ne_nil sep rest)
  rw [plain, tokens, splitOn_cons_of_ne h]
  by_cases first : d = sep
  · subst first
    refine ⟨[], tokens d rest, ?_, ?_⟩
    · simp [led, tokens_cons_sep]
    · rw [List.splitOn_cons_eq_if_modifyHead, if_pos (beq_self_eq_true d)]
      rfl
  · refine ⟨d :: front, more.filter (· ≠ []), ?_, ?_⟩
    · rw [led, tokens, splitOn_cons_of_ne first, split]
      simp [first]
    · rw [splitOn_cons_of_ne first, split]
      rfl

/-- Of the merged text only what is in front of the first separator and behind the last one may be
empty. -/
theorem splitOn_merge (text : List α) : (merge sep text).splitOn sep =
    led sep text ++ if text.getLast? = some sep then [[]] else [] := by
  induction text using merge.induct sep with
  | case1 c d rest both ih =>
    obtain ⟨rfl, rfl⟩ := both
    rw [merge, if_pos ⟨rfl, rfl⟩, ih, led, led, tokens_cons_sep (d :: rest), List.getLast?_cons_cons]
    rfl
  | case2 c d rest apart ih =>
    rw [merge, if_neg apart, List.getLast?_cons_cons]
    by_cases first : c = sep
    · subst first
      have second : d ≠ c := fun same => apart ⟨rfl, same⟩
      rw [List.splitOn_cons_eq_if_modifyHead, if_pos (beq_self_eq_true c), ih, led, led,
        tokens_cons_sep]
      simp [second]
    · obtain ⟨front, more, before, after⟩ := led_cons_of_ne first d rest
      rw [splitOn_cons_of_ne first, ih, before, after]
      rfl
  | case3 rest short =>
    cases rest with
    | nil => simp [merge, led, tokens]
    | cons c tail =>
      cases tail with
      | cons d rest => exact absurd rfl (short c d rest)
      | nil =>
        by_cases same : c = sep
        · subst same
          simp [merge, led, tokens, List.splitOn_cons_eq_if_modifyHead]
        · simp [merge, led, tokens, List.splitOn_cons_eq_if_modifyHead, same]

/-! Tokens put together again. -/

variable {ts : List (List α)}

theorem tokens_intercalate (h : ∀ t ∈ ts, t ≠ [] ∧ sep ∉ t) : tokens sep ([sep].intercalate ts) = ts := by
  cases ts with
  | nil => rfl
  | cons t ts =>
    rw [tokens, List.splitOn_intercalate sep (fun t ht => (h t ht).2) (List.cons_ne_nil t ts)]
    exact List.filter_eq_self.mpr fun t ht => decide_eq_true (h t ht).1

theorem tokens_concat_sep (text : List α) : tokens sep (text ++ [sep]) = tokens sep text := by
  rw [tokens, List.splitOn_append_cons_self, List.filter_append]
  exact List.append_nil _

theorem getLast?_intercalate (h : ∀ t ∈ ts, t ≠ [] ∧ sep ∉ t) : ([sep].intercalate ts).getLast? ≠ some sep := by
  induction ts with
  | nil => exact nofun
  | cons t ts ih =>
    obtain ⟨⟨ne, plain⟩, later⟩ := List.forall_mem_cons.mp h
    cases ts with
    | nil =>
      rw [List.intercalate_singleton]
      exact fun last => plain (List.mem_of_getLast? last)
    | cons u us =>
      have more : [sep].intercalate (u :: us) ≠ [] := by
        intro none
        have first := congrArg (tokens sep) none
        rw [tokens_intercalate later] at first
        cases first
      rw [List.intercalate_cons_cons, List.getLast?_append_of_ne_nil _ more]
      exact ih later

end Anbox.Framework
