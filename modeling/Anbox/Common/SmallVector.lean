import Mathlib.Data.List.Basic
import Mathlib.Order.Lattice

namespace Anbox.Common

variable {T : Type} {SmallSize : Nat}

/-- The elements of a vector, kept in place up to `SmallSize` of them and on the heap otherwise. -/
structure SmallFixedVector (T : Type) (SmallSize : Nat) where
  elems : List T
  mCapacity : Nat
  isAllocated : Bool
  size_le : elems.length ≤ mCapacity
  inplace : isAllocated = false → mCapacity = SmallSize
  heap : isAllocated = true → SmallSize < mCapacity
  deriving DecidableEq

namespace SmallFixedVector

def size (v : SmallFixedVector T SmallSize) : Nat := v.elems.length

/-- `initInplace`: what a new vector is, and one whose memory has been stolen. -/
def initInplace : SmallFixedVector T SmallSize :=
  ⟨[], SmallSize, false, Nat.zero_le _, fun _ => rfl, fun h => by cases h⟩

theorem small_le (v : SmallFixedVector T SmallSize) : SmallSize ≤ v.mCapacity := by
  cases h : v.isAllocated with
  | false => exact (v.inplace h).ge
  | true => exact (v.heap h).le

/-- Moves the elements to a larger array on the heap. -/
def setCapacity (v : SmallFixedVector T SmallSize) (newCap : Nat) (h : v.mCapacity < newCap) :
    SmallFixedVector T SmallSize :=
  ⟨v.elems, newCap, true, v.size_le.trans h.le, fun hc => (by cases hc), fun _ =>
    Nat.lt_of_le_of_lt v.small_le h⟩

def growForSize (v : SmallFixedVector T SmallSize) (newSize : Nat) :
    SmallFixedVector T SmallSize :=
  if h : newSize > v.mCapacity then
    v.setCapacity (max newSize (v.mCapacity + v.mCapacity / 2)) (Nat.lt_of_lt_of_le h (Nat.le_max_left _ _))
  else v

@[simp] theorem growForSize_elems (v : SmallFixedVector T SmallSize) (newSize : Nat) :
    (v.growForSize newSize).elems = v.elems := by
  unfold growForSize
  split_ifs <;> rfl

theorem le_growForSize (v : SmallFixedVector T SmallSize) (newSize : Nat) :
    newSize ≤ (v.growForSize newSize).mCapacity := by
  unfold growForSize
  split_ifs with h
  · exact le_max_left _ _
  · exact Nat.le_of_not_lt h

/-- New elements behind the ones there are. -/
def insertBack (v : SmallFixedVector T SmallSize) (range : List T) :
    SmallFixedVector T SmallSize :=
  { v.growForSize (v.size + range.length) with
    elems := v.elems ++ range
    size_le := by
      rw [List.length_append]
      exact v.le_growForSize _ }

/-- A new vector with the elements of a range. -/
def ofRange (range : List T) : SmallFixedVector T SmallSize := initInplace.insertBack range

/-- `fresh` gives the elements a vector grows by: `T()` for `resize`, and whatever the memory
holds for `resizeNoinit`. -/
def resizeImpl (v : SmallFixedVector T SmallSize) (newSize : Nat) (fresh : Nat → T) :
    SmallFixedVector T SmallSize :=
  if newSize < v.size then
    { v with
      elems := v.elems.take newSize
      size_le := (List.length_take_le' newSize v.elems).trans v.size_le }
  else v.insertBack ((List.range (newSize - v.size)).map fresh)

theorem size_le_small {v : SmallFixedVector T SmallSize} (h : ¬ v.isAllocated) :
    v.elems.length ≤ SmallSize :=
  v.size_le.trans (v.inplace (Bool.eq_false_of_not_eq_true h)).le

theorem size_le_kept {v other : SmallFixedVector T SmallSize} (ho : ¬ other.isAllocated)
    (h : ¬ (v.isAllocated ∧ v.mCapacity < other.size)) : other.elems.length ≤ v.mCapacity := by
  by_cases hv : v.isAllocated = true
  · exact Nat.le_of_not_lt fun hlt => h ⟨hv, hlt⟩
  · exact (size_le_small ho).trans v.small_le

/-- `operator=(SmallFixedVector&&)`: the new value, and what is left of `other`. -/
def moveAssign (v other : SmallFixedVector T SmallSize) :
    SmallFixedVector T SmallSize × SmallFixedVector T SmallSize :=
  if ho : other.isAllocated then (other, initInplace)
  else if h : v.isAllocated ∧ v.mCapacity < other.size then
    ({ (initInplace : SmallFixedVector T SmallSize) with
        elems := other.elems, size_le := size_le_small ho }, other)
  else ({ v with elems := other.elems, size_le := size_le_kept ho h }, other)

/-- The elements are written through `data()`. -/
def write (v : SmallFixedVector T SmallSize) (elems : List T) (h : elems.length = v.size) :
    SmallFixedVector T SmallSize :=
  { v with elems := elems, size_le := h.le.trans v.size_le }

@[simp] theorem insertBack_elems (v : SmallFixedVector T SmallSize) (range : List T) :
    (v.insertBack range).elems = v.elems ++ range := rfl

/-- Whatever the two vectors looked like, the elements arrive. -/
@[simp] theorem moveAssign_elems (v other : SmallFixedVector T SmallSize) :
    (v.moveAssign other).1.elems = other.elems := by
  unfold moveAssign
  split_ifs <;> rfl

theorem resize_elems_le {v : SmallFixedVector T SmallSize} {newSize : Nat} (h : newSize ≤ v.size)
    (fresh : Nat → T) : (v.resizeImpl newSize fresh).elems = v.elems.take newSize := by
  unfold resizeImpl
  split_ifs with hlt
  · rfl
  · have same : newSize = v.size := by omega
    simp [same, size]

end SmallFixedVector

end Anbox.Common
