import Anbox.Common.SmallVector
import Anbox.Framework.Lifetimes
import Mathlib.Algebra.Group.Nat.Defs

namespace Anbox.Common.SmallVectorMemory

open Anbox.Framework

/-- What the code depends on of a type of elements: how large an element is, where it can stand, what
`T()` is, and what is left of an element that was moved. -/
structure ElementType (T : Type) where
  sizeof : Nat
  sizeof_pos : 0 < sizeof
  alignof : Nat
  fresh : T
  moved : T → T

/-- Where elements stand: in the array inside of an object, or in a block on the heap. -/
inductive Block where
  | inplace (object : Nat)
  | heap (n : Nat)
  deriving DecidableEq

/-- The members of a vector; `mEnd` is counted from `mBegin`. -/
structure Members where
  mBegin : Block
  mEnd : Nat
  mCapacity : Nat

/-- A vector in the middle of an operation, with the memory and the number of blocks that were handed
out so far. -/
structure This (T : Type) extends Members where
  memory : Memory Block T
  blocks : Nat

/-- How an operation ends that does not return. -/
inductive Fault where
  | abort
  | undefined

def demand {α : Type} : Option α → Except Fault α
  | some a => .ok a
  | none => .error .undefined

section

variable {T : Type} (τ : ElementType T) (SmallSize : Nat)

/-- The offset of `mData.array`, which is aligned like its elements, but to eight bytes at least. -/
def arrayOffset : Nat := (24 + (max 8 τ.alignof - 1)) / max 8 τ.alignof * max 8 τ.alignof

/-- The offset behind the three members of the base class. -/
def smallBufferStart : Nat := 24

def isAllocated : Block → Bool
  | .heap _ => true
  | .inplace _ => arrayOffset τ ≠ smallBufferStart

def free (m : Memory Block T) : Block → Option (Memory Block T)
  | .heap n => m.release (.heap n)
  | .inplace _ => none

/-- A destructor that does nothing is called, too. -/
def destruct (m : Memory Block T) (b : Block) (i e : Nat) : Except Fault (Memory Block T) :=
  demand (Memory.destroyAll b i (e - i) m)

def dtor (t : This T) : Except Fault (Memory Block T) :=
  (destruct t.memory t.mBegin 0 t.mEnd).bind fun m =>
    if isAllocated τ t.mBegin then demand (free m t.mBegin) else .ok m

def initInplace (x : Nat) : Members := ⟨.inplace x, 0, SmallSize⟩

/-- `granted` when `malloc` finds memory. -/
def setCapacity (granted : Bool) (t : This T) (newCap : Nat) : Except Fault (This T) :=
  if granted then
    (demand (t.memory.allocate (.heap t.blocks) (τ.sizeof * newCap % 2^64 / τ.sizeof))).bind fun m =>
      (demand (Memory.transfer τ.moved t.mBegin 0 t.mEnd (.heap t.blocks) 0 m)).bind fun m =>
        (dtor τ { t with memory := m }).bind fun m =>
          .ok ⟨⟨.heap t.blocks, t.mEnd, newCap⟩, m, t.blocks + 1⟩
  else .error .abort

def growForSize (granted : Bool) (t : This T) (newSize : Nat) : Except Fault (This T) :=
  if newSize > t.mCapacity then
    setCapacity τ granted t (max newSize ((t.mCapacity + t.mCapacity / 2) % 2^64))
  else .ok t

def emplaceBack (granted : Bool) (t : This T) (v : T) : Except Fault (This T) :=
  (growForSize τ granted t ((t.mEnd + 1) % 2^64)).bind fun t =>
    (demand (t.memory.construct (t.mBegin, t.mEnd) v)).bind fun m =>
      .ok { t with memory := m, mEnd := t.mEnd + 1 }

def clear (t : This T) : Except Fault (This T) :=
  (destruct t.memory t.mBegin 0 t.mEnd).bind fun m => .ok { t with memory := m, mEnd := 0 }

def reserve (granted : Bool) (t : This T) (newCap : Nat) : Except Fault (This T) :=
  if newCap ≤ t.mCapacity then .ok t else setCapacity τ granted t newCap

/-- `fill` is what the new elements are constructed with; `resizeNoinit` leaves that to the caller, who
writes them right behind it. -/
def resizeImpl (granted : Bool) (t : This T) (newSize : Nat) (fill : Nat → T) : Except Fault (This T) :=
  if newSize < t.mEnd then
    (destruct t.memory t.mBegin newSize t.mEnd).bind fun m => .ok { t with memory := m, mEnd := newSize }
  else if newSize > t.mEnd then
    (growForSize τ granted t newSize).bind fun t =>
      (demand (Memory.constructAll t.mBegin t.mEnd ((List.range (newSize - t.mEnd)).map fill) t.memory)).bind
        fun m => .ok { t with memory := m, mEnd := newSize }
  else .ok t

/-- What a range iterates over: values from elsewhere, or the elements of a vector, which copying leaves
as they are and moving does not. -/
inductive Source (T : Type) where
  | values (vs : List T)
  | elements (b : Block) (count : Nat) (left : T → T)

def Source.count : Source T → Nat
  | values vs => vs.length
  | elements _ count _ => count

def uninitializedCopy (m : Memory Block T) (source : Source T) (b : Block) (i : Nat) :
    Except Fault (Memory Block T) :=
  match source with
  | .values vs => demand (Memory.constructAll b i vs m)
  | .elements b' count left => demand (Memory.transfer left b' 0 count b i m)

def insertBack (granted : Bool) (t : This T) (source : Source T) : Except Fault (This T) :=
  if source.count = 0 then .ok t
  else
    (growForSize τ granted t ((t.mEnd + source.count) % 2^64)).bind fun t =>
      (uninitializedCopy t.memory source t.mBegin t.mEnd).bind fun m =>
        .ok { t with memory := m, mEnd := t.mEnd + source.count }

/-! The vectors of a program. -/

structure State (T : Type) where
  memory : Memory Block T
  blocks : Nat
  object : Nat → Option Members

def State.this (s : State T) (v : Members) : This T := { v with memory := s.memory, blocks := s.blocks }

def State.put (s : State T) (x : Nat) (t : This T) : State T where
  memory := t.memory
  blocks := t.blocks
  object := Function.update s.object x (some t.toMembers)

/-- `SmallFixedVector()`. -/
def create (s : State T) (x : Nat) : Except Fault (This T) :=
  (demand (s.memory.allocate (.inplace x) SmallSize)).bind fun m =>
    .ok { initInplace SmallSize x with memory := m, blocks := s.blocks }

/-- `SmallFixedVector(Iter b, Iter e)`. -/
def constructRange (granted : Bool) (s : State T) (x : Nat) (source : Source T) : Except Fault (State T) :=
  (create SmallSize s x).bind fun t => (insertBack τ granted t source).bind fun t => .ok (s.put x t)

/-- `SmallFixedVector(const SmallFixedVector& other)`. -/
def copyConstruct (granted : Bool) (s : State T) (x : Nat) (other : Members) : Except Fault (State T) :=
  constructRange τ SmallSize granted s x (.elements other.mBegin other.mEnd id)

/-- `SmallFixedVector(Range&& r)`, which takes its elements by move iterators. -/
def rangeConstruct (granted : Bool) (s : State T) (x : Nat) (other : Members) : Except Fault (State T) :=
  constructRange τ SmallSize granted s x (.elements other.mBegin other.mEnd τ.moved)

/-- `SmallFixedVector(SmallFixedVector&& other)`. -/
def moveConstruct (s : State T) (x y : Nat) (other : Members) : Except Fault (State T) :=
  (create SmallSize s x).bind fun t =>
    if isAllocated τ other.mBegin then
      let s := s.put x { t with toMembers := other }
      .ok { s with object := Function.update s.object y (some (initInplace SmallSize y)) }
    else
      (uninitializedCopy t.memory (.elements other.mBegin other.mEnd τ.moved) (.inplace x) 0).bind fun m =>
        .ok (s.put x ⟨⟨.inplace x, other.mEnd, SmallSize⟩, m, t.blocks⟩)

/-- `operator=(const SmallFixedVector& other)`. -/
def copyAssign (granted : Bool) (s : State T) (x : Nat) (v other : Members) : Except Fault (State T) :=
  (clear (s.this v)).bind fun t =>
    (insertBack τ granted t (.elements other.mBegin other.mEnd id)).bind fun t => .ok (s.put x t)

/-- `operator=(SmallFixedVector&& other)`. -/
def moveAssign (s : State T) (x y : Nat) (v other : Members) : Except Fault (State T) :=
  if isAllocated τ other.mBegin then
    (dtor τ (s.this v)).bind fun m =>
      let s := s.put x { toMembers := other, memory := m, blocks := s.blocks }
      .ok { s with object := Function.update s.object y (some (initInplace SmallSize y)) }
  else
    (if isAllocated τ v.mBegin ∧ v.mCapacity < other.mEnd then
      (dtor τ (s.this v)).bind fun m =>
        .ok ({ initInplace SmallSize x with memory := m, blocks := s.blocks } : This T)
    else
      (destruct s.memory v.mBegin 0 v.mEnd).bind fun m => .ok { s.this v with memory := m }).bind fun t =>
        (uninitializedCopy t.memory (.elements other.mBegin other.mEnd τ.moved) t.mBegin 0).bind fun m =>
          .ok (s.put x { t with memory := m, mEnd := other.mEnd })

/-- `~SmallVector()`, and the end of the object. -/
def destroy (s : State T) (x : Nat) (v : Members) : Except Fault (State T) :=
  (dtor τ (s.this v)).bind fun m =>
    (demand (m.release (.inplace x))).bind fun m =>
      .ok { s with memory := m, object := Function.update s.object x none }

/-- An operation on one vector. -/
def State.apply (s : State T) (x : Nat) (v : Members) (f : This T → Except Fault (This T)) :
    Except Fault (State T) := (f (s.this v)).bind fun t => .ok (s.put x t)

end

end Anbox.Common.SmallVectorMemory
