import Anbox.Gles2.GL2Encoder

namespace Anbox.Gles2

open Anbox.Framework

theorem int32_eq {x : Int} (low : -2^31 ≤ x) (high : x < 2^31) : int32 x = x := by
  rw [int32, Int.bmod_def]
  omega

theorem intptr_eq {x : Int} (low : -2^63 ≤ x) (high : x < 2^63) : intptr x = x := by
  rw [intptr, Int.bmod_def]
  omega

theorem uint32_eq {x : Int} (low : 0 ≤ x) (high : x < 2^32) : (uint32 x : Int) = x := by
  rw [uint32]
  omega

theorem uint32_natCast {n : Nat} (small : n < 2^32) : uint32 n = n := by
  rw [uint32]
  omega

/-! Sizes. -/

theorem componentSize_le (type : GLenum) : componentSize type ≤ 4 := by
  rw [componentSize]
  split_ifs <;> omega

theorem glSizeof_component {type : GLenum} (h : componentSize type ≠ 0) :
    glSizeof type = componentSize type := by
  by_cases one : type = GL_BYTE ∨ type = GL_UNSIGNED_BYTE
  · rcases one with rfl | rfl <;> decide
  by_cases two : type = GL_SHORT ∨ type = GL_UNSIGNED_SHORT
  · rcases two with rfl | rfl <;> decide
  by_cases four : type = GL_FLOAT ∨ type = GL_FIXED
  · rcases four with rfl | rfl <;> decide
  · rw [componentSize, if_neg one, if_neg two, if_neg four] at h
    exact absurd rfl h

theorem glSizeof_index {type : GLenum} (h : type ∈ indexTypes) : glSizeof type = indexSize type := by
  simp only [indexTypes, List.mem_cons, List.not_mem_nil, or_false] at h
  rcases h with rfl | rfl | rfl <;> decide

theorem isValidDrawType_iff (type : GLenum) : GL2Encoder.isValidDrawType type ↔ type ∈ indexTypes := by
  simp [GL2Encoder.isValidDrawType, indexTypes]

namespace VertexArray

variable {a : VertexArray}

theorem Valid.width_pos (h : a.Valid) : 0 < a.width := by
  have positive : 0 < a.size.toNat := by
    have := h.size_pos
    omega
  exact Nat.mul_pos (Nat.pos_of_ne_zero h.type) positive

theorem Valid.width_le (h : a.Valid) : a.width ≤ 16 := by
  have few : a.size.toNat ≤ 4 := by
    have := h.size_le
    omega
  exact Nat.mul_le_mul (componentSize_le a.type) few

/-- `elementSize`, and `vsize`. -/
theorem Valid.glSizeof_mul (h : a.Valid) : (glSizeof a.type * a.size : Int) = a.width := by
  have size : ((a.size.toNat : Nat) : Int) = a.size := by
    have := h.size_pos
    omega
  rw [glSizeof_component h.type, width, Nat.cast_mul, size]

theorem Valid.vsize (h : a.Valid) : uint32 (a.size * glSizeof a.type) = a.width := by
  have small := h.width_le
  rw [Int.mul_comm, h.glSizeof_mul, uint32_natCast (by omega)]

end VertexArray

/-- What goes into a packet are the elements, one behind the other. -/
theorem pack_eq {a : VertexArray} (h : a.Valid) (mem : ByteMemory) (src : Int) (n : Nat) :
    glUtilsPackPointerData mem src a.size a.type (uint32 a.stride) (a.width * n) =
      (records mem src a.pitch a.width n).map List.flatten := by
  have positive := h.width_pos
  have stride : (uint32 a.stride : Int) = a.stride := by
    have := h.stride_lt
    exact uint32_eq h.stride_nonneg (by omega)
  have pitch : ((if uint32 a.stride = 0 then a.width else uint32 a.stride : Nat) : Int) = a.pitch := by
    rw [VertexArray.pitch]
    split_ifs <;> omega
  rw [glUtilsPackPointerData, h.vsize]
  by_cases dense : (if uint32 a.stride = 0 then a.width else uint32 a.stride) = a.width
  · rw [dense] at pitch
    rw [if_pos dense, ← pitch, Nat.mul_comm, load_mul]
  · rw [if_neg dense, if_pos (Nat.mul_mod_right a.width n), pitch, Nat.mul_div_cancel_left n positive]

/-! Indices. -/

theorem promoted_natCast (w : Nat) {n : Nat} (small : n < 2^31) : promoted w n = n := by
  rw [promoted, uint32_natCast (by omega), ite_self]

theorem minmaxTurn_eq (w : Nat) {lo hi p : Nat} (hlo : lo < 2^31) (hhi : hi < 2^31) (hp : p < 2^31) :
    minmaxTurn w (lo, hi) p = (((min lo p : Nat) : Int), ((max hi p : Nat) : Int)) := by
  have this : int32 p = p := int32_eq (by omega) (by omega)
  have least : (if (lo : Int) = -1 ∨ (p : Int) < lo then int32 p else lo) = ((min lo p : Nat) : Int) := by
    by_cases below : p < lo
    · rw [if_pos (Or.inr (by omega)), this, Nat.min_eq_right below.le]
    · rw [if_neg (by omega), Nat.min_eq_left (by omega)]
  have greatest : (if (hi : Int) = -1 ∨ (hi : Int) < p then int32 p else hi) =
      ((max hi p : Nat) : Int) := by
    by_cases above : hi < p
    · rw [if_pos (Or.inr (by omega)), this, Nat.max_eq_right above.le]
    · rw [if_neg (by omega), Nat.max_eq_left (by omega)]
  rw [minmaxTurn, promoted_natCast w hlo, promoted_natCast w hhi, least, greatest]

/-- The two bounds are among the indices seen, and bound them. -/
theorem minmax_turns (w : Nat) (seen ps : List Nat) {lo hi : Nat} (small : ∀ p ∈ seen ++ ps, p < 2^31)
    (hlo : lo ∈ seen) (hhi : hi ∈ seen) (bound : ∀ p ∈ seen, lo ≤ p ∧ p ≤ hi) :
    ∃ least greatest : Nat,
      ps.foldl (minmaxTurn w) ((lo : Int), (hi : Int)) = ((least : Int), (greatest : Int)) ∧
      least ∈ seen ++ ps ∧ greatest ∈ seen ++ ps ∧ ∀ p ∈ seen ++ ps, least ≤ p ∧ p ≤ greatest := by
  induction ps generalizing seen lo hi with
  | nil =>
    rw [List.append_nil]
    exact ⟨lo, hi, rfl, hlo, hhi, bound⟩
  | cons p ps ih =>
    have whole : seen ++ p :: ps = (seen ++ [p]) ++ ps := by simp
    have low := small lo (List.mem_append_left _ hlo)
    have high := small hi (List.mem_append_left _ hhi)
    have here := small p (List.mem_append_right _ List.mem_cons_self)
    rw [List.foldl_cons, minmaxTurn_eq w low high here, whole]
    apply ih
    · rwa [← whole]
    · rcases Nat.le_total lo p with le | le <;> simp [le, hlo]
    · rcases Nat.le_total hi p with le | le <;> simp [le, hhi]
    · intro q hq
      rcases List.mem_append.mp hq with there | new
      · have := bound q there
        omega
      · obtain rfl := List.mem_singleton.mp new
        omega

theorem minmax_range (w : Nat) {p : Nat} {ps : List Nat} (small : ∀ q ∈ p :: ps, q < 2^31) :
    ∃ least greatest : Nat, minmax w (p :: ps) = ((least : Int), (greatest : Int)) ∧ least ∈ p :: ps ∧
      greatest ∈ p :: ps ∧ ∀ q ∈ p :: ps, least ≤ q ∧ q ≤ greatest := by
  have first : minmaxTurn w (-1, -1) p = ((p : Int), (p : Int)) := by
    have start := small p List.mem_cons_self
    rw [minmaxTurn, if_pos (Or.inl rfl), if_pos (Or.inl rfl), int32_eq (by omega) (by omega)]
  rw [minmax, List.foldl_cons, first]
  have turns := minmax_turns w [p] ps small
    (List.mem_singleton_self p) (List.mem_singleton_self p) (by simp)
  rwa [List.singleton_append] at turns

theorem shiftIndices_eq (w : Nat) {ps : List Nat} {least : Nat} (low : ∀ p ∈ ps, least ≤ p)
    (small : ∀ p ∈ ps, p < 256^w) (bound : least ≤ 2^31) :
    shiftIndices w ps (int32 (-least)) = ps.map (· - least) := by
  rw [int32_eq (by omega) (by omega), shiftIndices]
  apply List.map_congr_left
  intro p hp
  have down : (p : Int) + -least = ((p - least : Nat) : Int) := by
    have := low p hp
    omega
  have below : p - least < 256^w := Nat.lt_of_le_of_lt (Nat.sub_le p least) (small p hp)
  have power : (256 : Int)^w = ((256^w : Nat) : Int) := by rw [Nat.cast_pow]; rfl
  rw [down, power, ← Int.natCast_mod, Int.toNat_natCast, Nat.mod_eq_of_lt below]

end Anbox.Gles2
