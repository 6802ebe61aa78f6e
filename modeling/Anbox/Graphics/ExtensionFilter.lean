import Anbox.Common.Utils

namespace Anbox.Graphics.ExtensionFilter

open Anbox.Framework
open Anbox.Utils (text stringSplit)

def space : UInt8 := 32

section

variable (whitelist : List (List UInt8))

/-- One round of the loop, on what has been written so far. -/
def approve (approvedExtensions ext : List UInt8) : List UInt8 :=
  if !whitelist.contains ext then approvedExtensions
  else if approvedExtensions.length > 0 then approvedExtensions ++ space :: ext
  else approvedExtensions ++ ext

def filterExtensions (extensions : List UInt8) : List UInt8 :=
  (stringSplit extensions space).foldl (approve whitelist) []

/-- The tokens of an extension string that are in the whitelist. -/
def whitelisted (extensions : List UInt8) : List (List UInt8) :=
  (tokens space extensions).filter whitelist.contains

/-- An empty token behind the last space is in the whitelist, and something is in front of it. -/
def trails (extensions : List UInt8) : Bool :=
  extensions.getLast? = some space && whitelist.contains [] && !(whitelisted whitelist extensions).isEmpty

end

variable {whitelist : List (List UInt8)}

theorem approve_eq (approved ext : List UInt8) : approve whitelist approved ext =
    if ext ∉ whitelist then approved
    else if approved.length > 0 then approved ++ space :: ext
    else approved ++ ext := by
  simp [approve]

theorem whitelisted_eq (extensions : List UInt8) :
    whitelisted whitelist extensions = (tokens space extensions).filter (· ∈ whitelist) := by
  apply List.filter_congr
  intro ext _
  exact List.contains_eq_mem ext whitelist

theorem trails_iff (extensions : List UInt8) : trails whitelist extensions = true ↔
    extensions.getLast? = some space ∧ [] ∈ whitelist ∧ whitelisted whitelist extensions ≠ [] := by
  simp [trails, and_assoc]

/-- Behind what is there already each token that is kept stands after a space. -/
theorem approve_behind {approved : List UInt8} (h : approved ≠ []) (ts : List (List UInt8)) :
    ts.foldl (approve whitelist) approved =
      approved ++ (ts.filter (· ∈ whitelist)).flatMap (space :: ·) := by
  induction ts generalizing approved with
  | nil => exact (List.append_nil approved).symm
  | cons t ts ih =>
    rw [List.foldl_cons, List.filter_cons, approve_eq]
    by_cases kept : t ∈ whitelist
    · have more : approved ++ space :: t ≠ [] := List.append_ne_nil_of_left_ne_nil h _
      rw [if_neg (not_not.mpr kept), if_pos (List.length_pos_of_ne_nil h), if_pos (decide_eq_true kept),
        ih more, List.flatMap_cons, List.append_assoc]
    · rw [if_pos kept, if_neg (mt of_decide_eq_true kept), ih h]

theorem intercalate_cons (t : List UInt8) (ts : List (List UInt8)) :
    [space].intercalate (t :: ts) = t ++ ts.flatMap (space :: ·) := by
  induction ts generalizing t with
  | nil => simp
  | cons u us ih => rw [List.intercalate_cons_cons, ih, List.flatMap_cons]; simp

/-- The tokens that are kept, from nothing on. -/
theorem approve_nil {ts : List (List UInt8)} (h : ∀ t ∈ ts, t ≠ []) :
    ts.foldl (approve whitelist) [] = [space].intercalate (ts.filter (· ∈ whitelist)) := by
  induction ts with
  | nil => rfl
  | cons t ts ih =>
    obtain ⟨ne, later⟩ := List.forall_mem_cons.mp h
    rw [List.foldl_cons, List.filter_cons, approve_eq]
    by_cases kept : t ∈ whitelist
    · have first : ¬ ([] : List UInt8).length > 0 := Nat.not_lt_zero 0
      rw [if_neg (not_not.mpr kept), if_neg first, if_pos (decide_eq_true kept), List.nil_append,
        approve_behind ne, intercalate_cons]
    · rw [if_pos kept, if_neg (mt of_decide_eq_true kept), ih later]

theorem approve_empty : approve whitelist [] [] = [] := by
  have first : ¬ ([] : List UInt8).length > 0 := Nat.not_lt_zero 0
  rw [approve_eq, if_neg first, List.nil_append, ite_self]

theorem tokens_ne_nil {extensions t : List UInt8} (h : t ∈ tokens space extensions) : t ≠ [] :=
  (mem_tokens h).1

theorem mem_whitelisted {extensions t : List UInt8} (h : t ∈ whitelisted whitelist extensions) :
    t ≠ [] ∧ space ∉ t := mem_tokens (List.mem_of_mem_filter h)

theorem intercalate_eq_nil {ts : List (List UInt8)} (h : ∀ t ∈ ts, t ≠ [] ∧ space ∉ t) :
    [space].intercalate ts = [] ↔ ts = [] := by
  constructor
  · intro none
    have same := congrArg (tokens space) none
    rwa [tokens_intercalate h] at same
  · intro none
    rw [none]
    rfl

theorem filterExtensions_spec (extensions : List UInt8) : filterExtensions whitelist extensions =
    [space].intercalate (whitelisted whitelist extensions) ++
      if trails whitelist extensions then [space] else [] := by
  simp only [trails_iff]
  have led : (led space extensions).foldl (approve whitelist) [] =
      [space].intercalate (whitelisted whitelist extensions) := by
    rw [led, List.foldl_append, whitelisted_eq]
    split_ifs
    · rw [List.foldl_cons, approve_empty, List.foldl_nil, approve_nil fun _ => tokens_ne_nil]
    · exact approve_nil fun _ => tokens_ne_nil
  rw [filterExtensions, stringSplit, splitOn_merge, List.foldl_append, led]
  by_cases last : extensions.getLast? = some space
  · rw [if_pos last, List.foldl_cons, List.foldl_nil]
    by_cases kept : whitelisted whitelist extensions = []
    · rw [if_neg fun trailing => trailing.2.2 kept, kept]
      exact approve_empty
    · have some : [space].intercalate (whitelisted whitelist extensions) ≠ [] :=
        mt (intercalate_eq_nil fun _ => mem_whitelisted).mp kept
      by_cases empty : [] ∈ whitelist
      · rw [if_pos ⟨last, empty, kept⟩, approve_eq, if_neg (not_not.mpr empty),
          if_pos (List.length_pos_of_ne_nil some)]
      · rw [if_neg fun trailing => empty trailing.2.1, approve_eq, if_pos empty, List.append_nil]
  · rw [if_neg last, if_neg fun trailing => last trailing.1]
    exact (List.append_nil _).symm

/-- The tokens of what comes out are those that were kept. -/
theorem whitelisted_filterExtensions (extensions : List UInt8) :
    whitelisted whitelist (filterExtensions whitelist extensions) =
      whitelisted whitelist extensions := by
  have back : tokens space (filterExtensions whitelist extensions) =
      whitelisted whitelist extensions := by
    rw [filterExtensions_spec]
    split_ifs
    · rw [tokens_concat_sep, tokens_intercalate fun _ => mem_whitelisted]
    · rw [List.append_nil, tokens_intercalate fun _ => mem_whitelisted]
  rw [whitelisted, back]
  exact List.filter_eq_self.mpr fun t ht => (List.mem_filter.mp ht).2

theorem trails_filterExtensions (extensions : List UInt8) :
    trails whitelist (filterExtensions whitelist extensions) ↔ trails whitelist extensions := by
  rw [trails_iff, trails_iff, whitelisted_filterExtensions, filterExtensions_spec]
  simp only [trails_iff]
  split_ifs with trailing
  · exact iff_of_true ⟨List.getLast?_concat, trailing.2⟩ trailing
  · refine iff_of_false ?_ trailing
    intro again
    rw [List.append_nil] at again
    exact getLast?_intercalate (fun _ => mem_whitelisted) again.1

/-- The tokens in the whitelist, a space between two of them: one more stands at the end where the
empty string is in the whitelist and the text ended in one. -/
theorem filter_extensions_eq (whitelist : List (List UInt8)) (extensions : List UInt8) :
    filterExtensions whitelist extensions =
        [space].intercalate ((tokens space extensions).filter (· ∈ whitelist)) ++
          (if trails whitelist extensions then [space] else []) ∧
      filterExtensions whitelist (filterExtensions whitelist extensions) =
        filterExtensions whitelist extensions := by
  rw [← whitelisted_eq]
  refine ⟨filterExtensions_spec extensions, ?_⟩
  rw [filterExtensions_spec (filterExtensions whitelist extensions), whitelisted_filterExtensions,
    if_congr (trails_filterExtensions extensions) rfl rfl, ← filterExtensions_spec]

/-- The space at the end is kept for the empty string. -/
theorem trailing_space_kept : ¬ ∀ (whitelist : List (List UInt8)) (extensions : List UInt8),
    filterExtensions whitelist extensions =
        [space].intercalate ((tokens space extensions).filter (· ∈ whitelist)) ∧
      filterExtensions whitelist (filterExtensions whitelist extensions) =
        filterExtensions whitelist extensions := by
  intro h
  have plain := (h [[], text "a"] (text "a ")).1
  rw [filterExtensions, stringSplit, splitOn_merge] at plain
  exact absurd plain (by decide)

end Anbox.Graphics.ExtensionFilter
