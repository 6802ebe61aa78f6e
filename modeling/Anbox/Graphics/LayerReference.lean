import Anbox.Framework.Largest
import Anbox.Graphics.LayerPlacement
import Mathlib.Algebra.Group.Nat.Defs

namespace Anbox.Graphics.LayerComposer

open Anbox.Framework

variable {α τ : Type*} {layers : List (Renderable α τ)}

/-! What is wanted. -/

/-- The area of a rectangle, in the numbers; an inverted one may have a negative area. -/
def area (r : Renderable α τ) : Int :=
  (r.screenPosition.right.toInt - r.screenPosition.left.toInt) *
    (r.screenPosition.bottom.toInt - r.screenPosition.top.toInt)

/-- What 32 bits make of the area. -/
def wrappedArea (r : Renderable α τ) : Int := (area r).bmod (2^32)

/-- The frame is where the last of the largest layers is, and a layer has been put in the place of the
initial rectangle. -/
structure Referenced (layers : List (Renderable α τ)) : Prop where
  largest : ∃ before r after, layers = before ++ r :: after ∧ LastLargest area before r after ∧
    newWindowFrame layers = r.screenPosition
  taken : ∃ r ∈ layers, ¬ layerArea r < -1

/-- The last of the largest layers is that in 32 bits, too, and -1 does not exceed it. -/
def Measured (layers : List (Renderable α τ)) : Prop :=
  ∃ before r after, layers = before ++ r :: after ∧ LastLargest area before r after ∧
    LastLargest wrappedArea before r after ∧ -1 ≤ wrappedArea r

/-! Areas. -/

theorem toInt_layerArea (r : Renderable α τ) : (layerArea r).toInt = wrappedArea r := by
  rw [layerArea, ScreenRect.width, ScreenRect.height, Int32.toInt_mul, Int32.toInt_sub,
    Int32.toInt_sub, Int.mul_bmod_bmod, Int.bmod_mul_bmod]
  rfl

theorem layerArea_le {r s : Renderable α τ} : layerArea r ≤ layerArea s ↔
    wrappedArea r ≤ wrappedArea s := by
  rw [Int32.le_iff_toInt_le, toInt_layerArea, toInt_layerArea]

theorem layerArea_lt {r s : Renderable α τ} : layerArea r < layerArea s ↔
    wrappedArea r < wrappedArea s := by
  rw [Int32.lt_iff_toInt_lt, toInt_layerArea, toInt_layerArea]

theorem counts_iff {r : Renderable α τ} : -1 ≤ layerArea r ↔ -1 ≤ wrappedArea r := by
  rw [Int32.le_iff_toInt_le, toInt_layerArea]
  rfl

theorem IsReference.of_lastLargest {before after : List (Renderable α τ)} {r : Renderable α τ}
    (h : LastLargest wrappedArea before r after) (counts : -1 ≤ wrappedArea r) :
    IsReference (before ++ r :: after) r := by
  refine ⟨before, after, rfl, ?_, ?_, counts_iff.mpr counts⟩
  · intro x hx
    exact layerArea_le.mpr (h.before x hx)
  · intro x hx
    exact layerArea_lt.mpr (h.after x hx)

theorem area_congr {r s : Renderable α τ} (same : r.screenPosition = s.screenPosition) :
    area r = area s := by
  rw [area, area, same]

/-- The layer that the search ends at, when there is one that counts. -/
theorem exists_reference (taken : ∃ r ∈ layers, ¬ layerArea r < -1) :
    ∃ before r after, layers = before ++ r :: after ∧ LastLargest wrappedArea before r after ∧
      -1 ≤ wrappedArea r := by
  obtain ⟨s, hs, counts⟩ := taken
  obtain ⟨before, r, after, rfl, last⟩ := exists_lastLargest wrappedArea (List.ne_nil_of_mem hs)
  have enough : -1 ≤ wrappedArea s := counts_iff.mp (Int32.not_lt.mp counts)
  exact ⟨before, r, after, rfl, last, enough.trans (last.le s hs)⟩

/-- The frame of a window is the position of the last of its largest layers exactly when 32 bits do
not change which one that is, nor make its area smaller than -1. -/
theorem new_window_frame_largest_iff (layers : List (Renderable α τ)) :
    Referenced layers ↔ Measured layers := by
  constructor
  · intro given
    obtain ⟨⟨before, r, after, rfl, largest, frame⟩, taken⟩ := given
    obtain ⟨before', r', after', split, last, counts⟩ := exists_reference taken
    have reference : IsReference (before ++ r :: after) r' := by
      rw [split]
      exact IsReference.of_lastLargest last counts
    have same : r.screenPosition = r'.screenPosition := by
      rw [← frame, newWindowFrame_eq reference]
    have areas := area_congr same
    have wrapped : wrappedArea r = wrappedArea r' := by rw [wrappedArea, areas, wrappedArea]
    obtain ⟨rfl, rfl, rfl⟩ := largest.unique last split areas wrapped
    exact ⟨before, r, after, rfl, largest, last, counts⟩
  · intro given
    obtain ⟨before, r, after, rfl, largest, last, counts⟩ := given
    have reference := IsReference.of_lastLargest last counts
    refine ⟨⟨before, r, after, rfl, largest, newWindowFrame_eq reference⟩, r, by simp, ?_⟩
    exact Int32.not_lt.mpr (counts_iff.mpr counts)

/-- The area of the second layer is the 32nd power of two, which leaves nothing in 32 bits. -/
def veryLarge : List (Renderable Unit Unit) :=
  [layerAt ⟨0, 0, 100, 100⟩ ⟨0, 0, 100, 100⟩, layerAt ⟨0, 0, 65536, 65536⟩ ⟨0, 0, 65536, 65536⟩]

theorem very_large_passed_over : ¬ ∀ layers : List (Renderable Unit Unit), layers ≠ [] →
    ∃ before r after, layers = before ++ r :: after ∧ LastLargest area before r after ∧
      newWindowFrame layers = r.screenPosition := by
  intro h
  obtain ⟨before, r, after, split, largest, frame⟩ := h veryLarge (List.cons_ne_nil _ _)
  have small : newWindowFrame veryLarge = ⟨0, 0, 100, 100⟩ := by decide
  have at_most := largest.le (layerAt ⟨0, 0, 65536, 65536⟩ ⟨0, 0, 65536, 65536⟩)
    (by rw [← split]; simp [veryLarge])
  rw [area, area, ← frame, small] at at_most
  exact absurd at_most (by decide)

end Anbox.Graphics.LayerComposer
