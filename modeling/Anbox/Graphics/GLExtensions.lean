import Anbox.Common.Utils
import Anbox.Framework.Occurrences
import Mathlib.Data.List.GetD

namespace Anbox.Graphics.GLExtensions

open Anbox.Framework
open Anbox.Utils (text)

/-- A string as C has it, without the NUL at its end. -/
structure CString where
  chars : List UInt8
  plain : 0 ∉ chars

/-- What a pointer into a string shows at an offset: the NUL at the end, and nothing behind that is
asked for. -/
def charAt (extPtr : List UInt8) (len : Nat) : UInt8 := extPtr.getD len 0

/-- The constructor. -/
def make (extensions : Option CString) : Except String CString :=
  match extensions with
  | none => .error "Couldn't get list of GL extensions"
  | some extensions => .ok extensions

/-- The loop of `support`, as far as it gets with so many searches. -/
def supportLoop (ext : List UInt8) : Nat → List UInt8 → Option Bool
  | 0, _ => none
  | searches + 1, extPtr =>
    match fromFirst ext extPtr with
    | none => some false
    | some extPtr =>
      if charAt extPtr ext.length = 32 ∨ charAt extPtr ext.length = 0 then some true
      else supportLoop ext searches (extPtr.drop ext.length)

def support (extensions : CString) (ext : Option CString) (searches : Nat) :
    Except String (Option Bool) :=
  match ext with
  | none => .error "Invalid extension name"
  | some ext => .ok (supportLoop ext.chars searches extensions.chars)

/-! What is wanted. -/

/-- Extensions are separated by spaces. -/
def tokens (extensions : List UInt8) : List (List UInt8) := extensions.splitOn 32

/-- `support` comes to an end, with the answer whether the extension is one of the list. -/
def Decides (extensions ext : CString) : Prop :=
  ∃ searches, ∀ more, searches ≤ more →
    support extensions (some ext) more = .ok (some (decide (ext.chars ∈ tokens extensions.chars)))

/-! The search. -/

variable {ext s rest t : List UInt8}

theorem charAt_append (u : List UInt8) : charAt (ext ++ u) ext.length = u.headD 0 := by
  rw [charAt, List.getD_append_right _ _ _ _ le_rfl, Nat.sub_self]
  cases u with
  | nil => rfl
  | cons c u => rfl

theorem supportLoop_none (h : fromFirst ext s = none) (searches : Nat) :
    supportLoop ext (searches + 1) s = some false := by
  rw [supportLoop, h]

theorem supportLoop_some {u : List UInt8} (h : fromFirst ext s = some (ext ++ u))
    (searches : Nat) : supportLoop ext (searches + 1) s =
      if u.headD 0 = 32 ∨ u.headD 0 = 0 then some true else supportLoop ext searches u := by
  rw [supportLoop, h]
  simp only [charAt_append, List.drop_left]

/-- The first token and what is behind it: nothing, or a space and more. -/
theorem exists_first_token (s : List UInt8) :
    ∃ t tail, s = t ++ tail ∧ 32 ∉ t ∧ ∀ c ∈ tail.head?, c = 32 := by
  by_cases h : 32 ∈ s
  · obtain ⟨t, rest, rfl, plain⟩ := List.eq_append_cons_of_mem h
    exact ⟨t, 32 :: rest, rfl, plain, by simp⟩
  · exact ⟨s, [], (List.append_nil s).symm, h, nofun⟩

section

variable {tail : List UInt8} (separated : ∀ c ∈ tail.head?, c = 32)
include separated

theorem exists_ends_append (some_ : ext ≠ []) (plain : 32 ∉ t) :
    (∃ t' ∈ tokens (t ++ tail), Ends ext t') ↔
      Ends ext t ∨ ∃ t' ∈ tokens tail.tail, Ends ext t' := by
  cases tail with
  | nil =>
    have none : ¬ Ends ext [] := fun h => some_ (List.suffix_nil.mp h.suffix)
    rw [List.append_nil, tokens, List.splitOn_eq_singleton plain]
    simp [tokens, none]
  | cons c rest =>
    obtain rfl := separated c rfl
    rw [tokens, List.splitOn_append_cons_self_of_not_mem plain]
    simp [tokens]

theorem fromFirst_append (some_ : ext ≠ []) (one : 32 ∉ ext) :
    fromFirst ext (t ++ tail) =
      match fromFirst ext t with
      | some u => some (u ++ tail)
      | none => fromFirst ext tail.tail := by
  cases tail with
  | nil =>
    rw [List.append_nil]
    cases fromFirst ext t with
    | none => simp [fromFirst, some_]
    | some u => simp
  | cons c rest =>
    obtain rfl := separated c rfl
    rw [fromFirst_separated one some_]
    cases fromFirst ext t with
    | none => rfl
    | some u => rfl

end

/-- The answer, which does not fail to come: whether a token ends in the extension, where the
occurrences in it are taken from the left. -/
theorem supportLoop_eq_some (some_ : ext ≠ []) (one : 32 ∉ ext) (s : List UInt8) (plain : 0 ∉ s)
    (searches : Nat) (enough : s.length < searches) :
    ∃ answer, supportLoop ext searches s = some answer ∧
      (answer = true ↔ ∃ t ∈ tokens s, Ends ext t) := by
  induction n : s.length using Nat.strongRecOn generalizing s searches with
  | ind n ih =>
    subst n
    obtain ⟨searches, rfl⟩ := Nat.exists_eq_succ_of_ne_zero (Nat.ne_zero_of_lt enough)
    obtain ⟨t, tail, rfl, token, separated⟩ := exists_first_token s
    rw [exists_ends_append separated some_ token]
    have found := fromFirst_append (t := t) separated some_ one
    cases first : fromFirst ext t with
    | none =>
      rw [first] at found
      cases tail with
      | nil =>
        have none : ¬ Ends ext [] := fun h => some_ (List.suffix_nil.mp h.suffix)
        refine ⟨false, supportLoop_none (by simpa [fromFirst, some_] using found) searches, ?_⟩
        simp [tokens, none, not_ends_of_none first]
      | cons c rest =>
        have shorter : rest.length < (t ++ c :: rest).length := by simp; omega
        obtain ⟨answer, comes, means⟩ := ih rest.length shorter rest
          (fun h => plain (by simp [h])) (searches + 1) (by omega) rfl
        refine ⟨answer, ?_, by simpa [not_ends_of_none first] using means⟩
        rw [← comes, supportLoop, supportLoop, found]
        rfl
    | some u =>
      obtain ⟨before, behind, split, rfl, -⟩ := fromFirst_eq_some.mp first
      rw [first] at found
      simp only [List.append_assoc] at found
      rw [supportLoop_some found, ends_iff first]
      cases behind with
      | nil =>
        refine ⟨true, if_pos ?_, by simp⟩
        cases tail with
        | nil => exact Or.inr rfl
        | cons c rest => exact Or.inl (separated c rfl)
      | cons c behind =>
        have inside : c ∈ t := by rw [split]; simp
        have other : ¬ (c = 32 ∨ c = 0) := by
          intro given
          obtain rfl | rfl := given
          · exact token inside
          · exact plain (List.mem_append_left _ inside)
        have later : 32 ∉ c :: behind := fun h => token (by rw [split]; simp at h ⊢; tauto)
        have shorter : (c :: behind ++ tail).length < (t ++ tail).length := by
          have long := List.length_pos_iff.mpr some_
          simp only [split, List.length_append, List.length_cons]
          omega
        obtain ⟨answer, comes, means⟩ := ih _ shorter (c :: behind ++ tail)
          (fun h => plain (by rw [split]; simp at h ⊢; tauto)) searches (by omega) rfl
        refine ⟨answer, ?_, ?_⟩
        · rw [← comes]
          exact if_neg other
        · rw [means, exists_ends_append separated some_ later]
          simp

/-- For a name that cannot begin inside itself, the answer is whether an entry ends in it. -/
theorem support_suffix (extensions ext : CString) (some_ : ext.chars ≠ []) (one : 32 ∉ ext.chars)
    (apart : ∀ k, 0 < k → k < ext.chars.length → ¬ ext.chars.drop k <+: ext.chars)
    (searches : Nat) (enough : extensions.chars.length < searches) :
    support extensions (some ext) searches =
      .ok (some (decide (∃ t ∈ tokens extensions.chars, ext.chars <:+ t))) := by
  obtain ⟨answer, comes, means⟩ :=
    supportLoop_eq_some some_ one extensions.chars extensions.plain searches enough
  have right : answer = decide (∃ t ∈ tokens extensions.chars, ext.chars <:+ t) := by
    rw [Bool.eq_iff_iff, means, decide_eq_true_iff]
    constructor
    · intro given
      obtain ⟨t, ht, ends⟩ := given
      exact ⟨t, ht, ends.suffix⟩
    · intro given
      obtain ⟨t, ht, suffix⟩ := given
      exact ⟨t, ht, ends_of_suffix some_ apart suffix⟩
  simp only [support, comes, right]

/-- The search comes to an end for every list and every name without spaces. The answer is right exactly
when the name is in the list or no longer entry ends in it, counted without overlap. -/
theorem support_decides_iff (extensions ext : CString) (some_ : ext.chars ≠ [])
    (one : 32 ∉ ext.chars) : Decides extensions ext ↔
      ext.chars ∈ tokens extensions.chars ∨ ∀ t ∈ tokens extensions.chars, ¬ Ends ext.chars t := by
  have answers := supportLoop_eq_some some_ one extensions.chars extensions.plain
  constructor
  · intro given
    obtain ⟨searches, decided⟩ := given
    obtain ⟨answer, comes, means⟩ := answers (max searches (extensions.chars.length + 1)) (by omega)
    have right := decided (max searches (extensions.chars.length + 1)) (by omega)
    simp only [support, comes, Except.ok.injEq, Option.some.injEq] at right
    subst right
    by_cases there : ext.chars ∈ tokens extensions.chars
    · exact Or.inl there
    · refine Or.inr fun t ht ends => there ?_
      exact of_decide_eq_true (means.mpr ⟨t, ht, ends⟩)
  · intro condition
    refine ⟨extensions.chars.length + 1, fun more enough => ?_⟩
    obtain ⟨answer, comes, means⟩ := answers more (by omega)
    have right : answer = decide (ext.chars ∈ tokens extensions.chars) := by
      rw [Bool.eq_iff_iff, means, decide_eq_true_iff]
      constructor
      · intro given
        obtain ⟨t, ht, ends⟩ := given
        exact condition.resolve_right fun none => none t ht ends
      · intro there
        exact ⟨_, there, ends_self _⟩
    simp only [support, comes, right]

/-- A list and a name from it. -/
theorem depth_texture_decides :
    Decides ⟨text "GL_OES_depth24 GL_OES_depth_texture", by decide⟩ ⟨text "GL_OES_depth24", by decide⟩ ↔
      text "GL_OES_depth24" ∈ tokens (text "GL_OES_depth24 GL_OES_depth_texture") ∨
        ∀ t ∈ tokens (text "GL_OES_depth24 GL_OES_depth_texture"),
          ¬ Ends (text "GL_OES_depth24") t :=
  support_decides_iff ⟨text "GL_OES_depth24 GL_OES_depth_texture", by decide⟩
    ⟨text "GL_OES_depth24", by decide⟩ (by decide) (by decide)

/-- The name is only the end of an entry. -/
theorem suffix_supported : ¬ ∀ extensions ext : CString, ext.chars ≠ [] → 32 ∉ ext.chars →
    Decides extensions ext := by
  intro h
  obtain ⟨searches, settled⟩ := h ⟨text "EGL_EXT_image", by decide⟩ ⟨text "EXT_image", by decide⟩
    (by decide) (by decide)
  have comes : supportLoop (text "EXT_image") (searches + 1) (text "EGL_EXT_image") = some true := by
    rw [supportLoop_some (u := []) (by decide)]
    exact if_pos (Or.inr rfl)
  have late := settled (searches + 1) (Nat.le_succ searches)
  simp only [support, comes, Except.ok.injEq, Option.some.injEq] at late
  exact absurd late (by decide)

end Anbox.Graphics.GLExtensions
