import Anbox.Common.SmallVectorMemory

namespace Anbox.Common.SmallVectorMemory

open Anbox.Framework

variable {T : Type} {τ : ElementType T} {SmallSize : Nat}

/-! An operation returns with what is said of it, or it aborts because there is no memory. -/

def Returns {α : Type} (granted : Bool) (r : Except Fault α) (P : α → Prop) : Prop :=
  match r with
  | .ok a => P a
  | .error .abort => granted = false
  | .error .undefined => False

namespace Returns

variable {α β : Type} {granted : Bool} {P : α → Prop} {Q : β → Prop}

theorem bind {r : Except Fault α} {f : α → Except Fault β} (h : Returns granted r P)
    (next : ∀ a, P a → Returns granted (f a) Q) : Returns granted (r.bind f) Q := by
  cases r with
  | ok a => exact next a h
  | error fault =>
    cases fault with
    | abort => exact h
    | undefined => exact h.elim

theorem demand {o : Option α} (h : ∃ a, o = some a ∧ P a) : Returns granted (demand o) P := by
  obtain ⟨a, rfl, ha⟩ := h
  exact ha

theorem mono {r : Except Fault α} {R : α → Prop} (h : Returns granted r P) (weaker : ∀ a, P a → R a) :
    Returns granted r R := by
  cases r with
  | ok a => exact weaker a h
  | error fault =>
    cases fault with
    | abort => exact h
    | undefined => exact h.elim

end Returns

/-! One vector among the blocks. -/

abbrev Blocks (T : Type) : Type := Block → Option (Nat × List T)

/-- The members and the blocks of an object are those of a vector. -/
structure Placed (st : Blocks T) (x : Nat) (v : Members) (w : SmallFixedVector T SmallSize) : Prop where
  size : v.mEnd = w.elems.length
  capacity : v.mCapacity = w.mCapacity
  here : st v.mBegin = some (w.mCapacity, w.elems)
  home : v.mBegin = .inplace x ∧ w.isAllocated = false ∨
    (∃ n, v.mBegin = .heap n) ∧ w.isAllocated = true ∧ st (.inplace x) = some (SmallSize, [])

/-- The blocks that an operation on a vector may change. -/
def Reach (x f : Nat) (v : Members) (b : Block) : Prop :=
  b = .inplace x ∨ b = v.mBegin ∨ ∃ n, f ≤ n ∧ b = .heap n

/-- What an operation on one vector does to the blocks: it leaves those of the others as they are, and of
its own nothing is left but where it is now. -/
structure Moves (x : Nat) (st : Blocks T) (f : Nat) (v : Members) (st' : Blocks T) (f' : Nat) (v' : Members) :
    Prop where
  frame : ∀ b, ¬Reach x f v b → st' b = st b
  cleared : ∀ b, Reach x f v b → b ≠ .inplace x → b ≠ v'.mBegin → st' b = none
  inside : Reach x f v v'.mBegin
  counted : f ≤ f'
  taken : ∀ n, f' ≤ n → v'.mBegin ≠ .heap n

/-- The memory in the middle of an operation. -/
structure Ready (x : Nat) (st : Blocks T) (t : This T) (w : SmallFixedVector T SmallSize) : Prop where
  shows : t.memory.Shows st
  placed : Placed st x t.toMembers w
  unused : ∀ n, t.blocks ≤ n → st (.heap n) = none

/-- What is said of an operation: it is one of the vector `w`, and gives `w'`. -/
def Gives (x : Nat) (st : Blocks T) (t : This T) (w' : SmallFixedVector T SmallSize) (t' : This T) : Prop :=
  ∃ st', Ready x st' t' w' ∧ Moves x st t.blocks t.toMembers st' t'.blocks t'.toMembers

section

variable {x f f' f'' : Nat} {st st' st'' : Blocks T} {v v' v'' : Members} {t t' t'' : This T}
  {w w' w'' : SmallFixedVector T SmallSize} {granted : Bool}

theorem Moves.trans (h : Moves x st f v st' f' v') (h' : Moves x st' f' v' st'' f'' v'') :
    Moves x st f v st'' f'' v'' := by
  have back : ∀ {b}, Reach x f' v' b → Reach x f v b := by
    intro b hb
    obtain home | now | ⟨n, hn, new⟩ := hb
    · exact Or.inl home
    · exact now ▸ h.inside
    · exact Or.inr (Or.inr ⟨n, h.counted.trans hn, new⟩)
  refine ⟨?_, ?_, back h'.inside, h.counted.trans h'.counted, h'.taken⟩
  · intro b hb
    rw [h'.frame b (mt back hb), h.frame b hb]
  · intro b hb home now
    by_cases near : Reach x f' v' b
    · exact h'.cleared b near home now
    · rw [h'.frame b near]
      exact h.cleared b hb home fun same => near (Or.inr (Or.inl same))

/-- No block is taken or given back. -/
theorem Moves.refill (taken : ∀ n, f ≤ n → v.mBegin ≠ .heap n) (unused : ∀ n, f ≤ n → st (.heap n) = none)
    {block : Option (Nat × List T)} (same : v'.mBegin = v.mBegin) :
    Moves x st f v (Function.update st v.mBegin block) f v' := by
  refine ⟨?_, ?_, Or.inr (Or.inl same), Nat.le_refl f, same ▸ taken⟩
  · intro b hb
    exact Function.update_of_ne (fun here => hb (Or.inr (Or.inl here))) _ _
  · intro b hb home away
    rw [same] at away
    rw [Function.update_of_ne away]
    obtain inplace | here | ⟨n, hn, rfl⟩ := hb
    · exact absurd inplace home
    · exact absurd here away
    · exact unused n hn

theorem Ready.taken (h : Ready x st t w) (n : Nat) (hn : t.blocks ≤ n) : t.mBegin ≠ .heap n := by
  intro same
  have here := h.placed.here
  rw [same, h.unused n hn] at here
  cases here

theorem Gives.refl (h : Ready x st t w) : Gives x st t w t := by
  have moves : Moves x st t.blocks t.toMembers (Function.update st t.mBegin (st t.mBegin)) t.blocks
      t.toMembers :=
    Moves.refill h.taken h.unused rfl
  rw [Function.update_eq_self] at moves
  exact ⟨st, h, moves⟩

/-- Other elements in the same cells. -/
theorem Placed.refill (placed : Placed st x v w) (w' : SmallFixedVector T SmallSize)
    (capacity : w'.mCapacity = w.mCapacity) (isAllocated : w'.isAllocated = w.isAllocated)
    {mEnd : Nat} (size : mEnd = w'.elems.length) :
    Placed (Function.update st v.mBegin (some (w.mCapacity, w'.elems))) x { v with mEnd := mEnd } w' := by
  refine ⟨size, placed.capacity.trans capacity.symm, ?_, ?_⟩
  · rw [Function.update_self, capacity]
  · rw [isAllocated]
    obtain home | ⟨⟨n, heap⟩, allocated, idle⟩ := placed.home
    · exact Or.inl home
    · refine Or.inr ⟨⟨n, heap⟩, allocated, ?_⟩
      rw [Function.update_of_ne (by rw [heap]; exact nofun), idle]

theorem Ready.refill (h : Ready x st t w) (w' : SmallFixedVector T SmallSize) {m' : Memory Block T}
    (shows : m'.Shows (Function.update st t.mBegin (some (w.mCapacity, w'.elems))))
    (capacity : w'.mCapacity = w.mCapacity) (isAllocated : w'.isAllocated = w.isAllocated)
    {mEnd : Nat} (size : mEnd = w'.elems.length) :
    Gives x st t w' { t with memory := m', mEnd := mEnd } := by
  refine ⟨_, ⟨shows, h.placed.refill w' capacity isAllocated size, ?_⟩, Moves.refill h.taken h.unused rfl⟩
  intro n hn
  rw [Function.update_of_ne (h.taken n hn).symm, h.unused n hn]

theorem Gives.trans (h : Gives x st t w' t')
    (h' : ∀ {st'}, Ready x st' t' w' → Gives x st' t' w'' t'') : Gives x st t w'' t'' := by
  obtain ⟨st', ready, moves⟩ := h
  obtain ⟨st'', ready', moves'⟩ := h' ready
  exact ⟨st'', ready', moves.trans moves'⟩

/-- One operation behind another. -/
theorem Returns.then {r : Except Fault (This T)} {f : This T → Except Fault (This T)}
    (h : Returns granted r (Gives x st t w'))
    (next : ∀ t' st', Ready x st' t' w' → Returns granted (f t') (Gives x st' t' w'')) :
    Returns granted (r.bind f) (Gives x st t w'') := by
  refine h.bind fun t' ht' => ?_
  obtain ⟨st', ready, moves⟩ := ht'
  refine (next t' st' ready).mono fun t'' ht'' => ?_
  obtain ⟨st'', ready', moves'⟩ := ht''
  exact ⟨st'', ready', moves.trans moves'⟩

/-! The operations on one vector. -/

theorem isAllocated_heap (n : Nat) : isAllocated τ (.heap n) = true := rfl

/-- Up to an alignment of eight the array stands right behind the members. -/
theorem isAllocated_inplace (aligned : τ.alignof ≤ 8) (x : Nat) : isAllocated τ (.inplace x) = false := by
  have offset : arrayOffset τ = 24 := by
    rw [arrayOffset, Nat.max_eq_left aligned]
  rw [isAllocated, offset]
  rfl

theorem Placed.isAllocated_eq (aligned : τ.alignof ≤ 8) (placed : Placed st x v w) :
    isAllocated τ v.mBegin = w.isAllocated := by
  obtain ⟨home, kind⟩ | ⟨⟨n, heap⟩, kind, -⟩ := placed.home
  · rw [home, kind, isAllocated_inplace aligned]
  · rw [heap, kind, isAllocated_heap]

theorem destruct_spec {m : Memory Block T} {b : Block} {n k : Nat} {vs : List T} (shows : m.Shows st)
    (hb : st b = some (n, vs)) (hk : k ≤ vs.length) :
    Returns granted (destruct m b k vs.length)
      fun m' => m'.Shows (Function.update st b (some (n, vs.take k))) :=
  Returns.demand (shows.destroyAll hb hk)

/-- What is left of the blocks of a vector when its elements are destroyed, and its memory is given
back. -/
def emptied (st : Blocks T) (v : Members) : Blocks T :=
  Function.update st v.mBegin <|
    match v.mBegin with
    | .heap _ => none
    | .inplace _ => some (v.mCapacity, [])

theorem emptied_of_ne {b : Block} (h : b ≠ v.mBegin) : emptied st v b = st b := Function.update_of_ne h _ _

theorem emptied_heap {n : Nat} (h : v.mBegin = .heap n) : emptied st v (.heap n) = none := by
  rw [emptied, h, Function.update_self]

/-- The array in the object is empty then. -/
theorem Placed.emptied_home (placed : Placed st x v w) :
    emptied st v (.inplace x) = some (SmallSize, []) := by
  obtain ⟨home, kind⟩ | ⟨⟨n, heap⟩, -, idle⟩ := placed.home
  · rw [emptied, home, placed.capacity, w.inplace kind]
    exact Function.update_self _ _ _
  · rw [emptied_of_ne (by rw [heap]; exact nofun), idle]

theorem dtor_spec (aligned : τ.alignof ≤ 8) (shows : t.memory.Shows st)
    (placed : Placed st x t.toMembers w) :
    Returns granted (dtor τ t) fun m' => m'.Shows (emptied st t.toMembers) := by
  unfold dtor
  rw [placed.size]
  refine (destruct_spec shows placed.here (Nat.zero_le _)).bind fun m' hm' => ?_
  rw [List.take_zero] at hm'
  obtain ⟨home, -⟩ | ⟨⟨n, heap⟩, -⟩ := placed.home
  · rw [home, isAllocated_inplace aligned, emptied, home, placed.capacity]
    rw [home] at hm'
    exact hm'
  · rw [heap, isAllocated_heap, emptied, heap]
    rw [heap] at hm'
    obtain ⟨m'', released, shows'⟩ := hm'.release (Function.update_self _ _ _)
    rw [Function.update_idem] at shows'
    exact Returns.demand ⟨m'', released, shows'⟩

theorem placed_initInplace (h : st (.inplace x) = some (SmallSize, [])) :
    Placed st x (initInplace SmallSize x) (SmallFixedVector.initInplace : SmallFixedVector T SmallSize) :=
  ⟨rfl, rfl, h, Or.inl ⟨rfl, rfl⟩⟩

/-- A vector that goes back to the array in its object. -/
theorem Ready.emptied (h : Ready x st t w) {m' : Memory Block T} (shows : m'.Shows (emptied st t.toMembers)) :
    Gives x st t (SmallFixedVector.initInplace : SmallFixedVector T SmallSize)
      { initInplace SmallSize x with memory := m', blocks := t.blocks } := by
  refine ⟨_, ⟨shows, placed_initInplace h.placed.emptied_home, ?_⟩, ?_, ?_, Or.inl rfl, Nat.le_refl _, nofun⟩
  · intro n hn
    rw [emptied_of_ne (h.taken n hn).symm, h.unused n hn]
  · intro b hb
    exact emptied_of_ne fun here => hb (Or.inr (Or.inl here))
  · intro b hb home _
    obtain inplace | here | ⟨n, hn, rfl⟩ := hb
    · exact absurd inplace home
    · obtain ⟨at_home, -⟩ | ⟨⟨n, heap⟩, -⟩ := h.placed.home
      · exact absurd (here.trans at_home) home
      · rw [here, heap, emptied_heap heap]
    · rw [emptied_of_ne (h.taken n hn).symm, h.unused n hn]

/-- What is left of a vector when its elements were moved. -/
def leftBy (moved : T → T) (w : SmallFixedVector T SmallSize) : SmallFixedVector T SmallSize :=
  { w with elems := w.elems.map moved, size_le := by rw [List.length_map]; exact w.size_le }

theorem leftBy_id (w : SmallFixedVector T SmallSize) : leftBy id w = w := by
  unfold leftBy
  simp only [List.map_id]

theorem cells_of_fits (τ : ElementType T) {n : Nat} (fits : τ.sizeof * n < 2^64) :
    τ.sizeof * n % 2^64 / τ.sizeof = n := by
  rw [Nat.mod_eq_of_lt fits, Nat.mul_div_cancel_left n τ.sizeof_pos]

/-- The elements have gone to a new block. -/
theorem Placed.moved (placed : Placed st x v w) (moved : T → T) (n newCap : Nat) :
    Placed (Function.update (Function.update st (.heap n) (some (newCap, w.elems))) v.mBegin
      (some (w.mCapacity, w.elems.map moved))) x v (leftBy moved w) := by
  refine ⟨?_, placed.capacity, Function.update_self _ _ _, ?_⟩
  · rw [placed.size]
    exact (List.length_map moved).symm
  · obtain home | ⟨⟨k, heap⟩, allocated, idle⟩ := placed.home
    · exact Or.inl home
    · refine Or.inr ⟨⟨k, heap⟩, allocated, ?_⟩
      have away : ∀ k, Block.inplace x ≠ .heap k := fun _ => nofun
      rw [heap, Function.update_of_ne (away k), Function.update_of_ne (away n), idle]

theorem Ready.relocated (h : Ready x st t w) {newCap : Nat} (larger : w.mCapacity < newCap)
    {block : Option (Nat × List T)} {m' : Memory Block T}
    (shows : m'.Shows (SmallVectorMemory.emptied (Function.update (Function.update st (.heap t.blocks)
      (some (newCap, w.elems))) t.mBegin block) t.toMembers))
    (home : SmallVectorMemory.emptied (Function.update (Function.update st (.heap t.blocks)
      (some (newCap, w.elems))) t.mBegin block) t.toMembers (.inplace x) = some (SmallSize, [])) :
    Gives x st t (w.setCapacity newCap larger)
      ⟨⟨.heap t.blocks, t.mEnd, newCap⟩, m', t.blocks + 1⟩ := by
  have off : ∀ b, b ≠ t.mBegin → b ≠ .heap t.blocks →
      SmallVectorMemory.emptied (Function.update (Function.update st (.heap t.blocks)
        (some (newCap, w.elems))) t.mBegin block) t.toMembers b = st b := by
    intro b old new
    rw [emptied_of_ne old, Function.update_of_ne old, Function.update_of_ne new]
  have later : ∀ n, t.blocks ≤ n → Block.heap n ≠ t.mBegin := fun n hn => (h.taken n hn).symm
  refine ⟨_, ⟨shows, ⟨h.placed.size, rfl, ?_, Or.inr ⟨⟨_, rfl⟩, rfl, home⟩⟩, ?_⟩, ?_, ?_,
    Or.inr (Or.inr ⟨t.blocks, Nat.le_refl _, rfl⟩), Nat.le_succ _, ?_⟩
  · have old := later t.blocks (Nat.le_refl _)
    rw [emptied_of_ne old, Function.update_of_ne old, Function.update_self]
    rfl
  · intro n hn
    change t.blocks + 1 ≤ n at hn
    have new : Block.heap n ≠ .heap t.blocks := fun same => absurd (Block.heap.inj same) (by omega)
    rw [off _ (later n (Nat.le_of_succ_le hn)) new, h.unused n (Nat.le_of_succ_le hn)]
  · intro b hb
    exact off b (fun old => hb (Or.inr (Or.inl old)))
      fun new => hb (Or.inr (Or.inr ⟨_, Nat.le_refl _, new⟩))
  · intro b hb away new
    obtain inplace | here | ⟨n, hn, rfl⟩ := hb
    · exact absurd inplace away
    · obtain ⟨at_home, -⟩ | ⟨⟨n, heap⟩, -⟩ := h.placed.home
      · exact absurd (here.trans at_home) away
      · rw [here, heap, emptied_heap heap]
    · rw [off _ (later n hn) new, h.unused n hn]
  · intro n hn same
    change t.blocks + 1 ≤ n at hn
    exact absurd (Block.heap.inj same) (by omega)

theorem setCapacity_spec (aligned : τ.alignof ≤ 8) (h : Ready x st t w) {newCap : Nat}
    (larger : w.mCapacity < newCap) (fits : τ.sizeof * newCap < 2^64) :
    Returns granted (setCapacity τ granted t newCap) (Gives x st t (w.setCapacity newCap larger)) := by
  unfold setCapacity
  split
  · rw [cells_of_fits τ fits]
    have new : st (.heap t.blocks) = none := h.unused _ (Nat.le_refl _)
    have apart : t.mBegin ≠ .heap t.blocks := h.taken _ (Nat.le_refl _)
    refine (Returns.demand (h.shows.allocate new newCap)).bind fun m₁ shows₁ => ?_
    have source : Function.update st (.heap t.blocks) (some (newCap, [])) t.mBegin =
        some (w.mCapacity, [] ++ w.elems) := by
      rw [Function.update_of_ne apart, h.placed.here, List.nil_append]
    have room : ([] : List T).length + w.elems.length ≤ newCap := by
      rw [List.length_nil, Nat.zero_add]
      exact w.size_le.trans (Nat.le_of_lt larger)
    rw [h.placed.size]
    refine (Returns.demand (shows₁.transfer τ.moved (Function.update_self _ _ _) source apart.symm room)).bind
      fun m₂ shows₂ => ?_
    rw [Function.update_idem, List.nil_append, List.nil_append] at shows₂
    have placed₂ := h.placed.moved τ.moved t.blocks newCap
    have moved : ({ t with memory := m₂ } : This T).memory.Shows _ := shows₂
    refine (dtor_spec aligned moved placed₂).bind fun m₃ shows₃ => ?_
    rw [← h.placed.size]
    exact h.relocated larger shows₃ placed₂.emptied_home
  · rename_i refused
    exact Bool.eq_false_iff.mpr refused

/-- Nothing is asked for that is counted in more than 64 bits. -/
def Asks (τ : ElementType T) (mCapacity newSize : Nat) : Prop :=
  newSize ≤ mCapacity ∨ τ.sizeof * max newSize (mCapacity + mCapacity / 2) < 2^64

theorem le_sizeof_mul (τ : ElementType T) (n : Nat) : n ≤ τ.sizeof * n :=
  Nat.le_mul_of_pos_left n τ.sizeof_pos

theorem growForSize_spec (aligned : τ.alignof ≤ 8) (h : Ready x st t w) {newSize : Nat}
    (asks : Asks τ w.mCapacity newSize) :
    Returns granted (growForSize τ granted t (newSize % 2^64))
      (Gives x st t (w.growForSize newSize)) := by
  unfold growForSize SmallFixedVector.growForSize
  rw [h.placed.capacity]
  by_cases larger : newSize > w.mCapacity
  · obtain small | fits := asks
    · exact absurd larger (Nat.not_lt.mpr small)
    have asked : newSize < 2^64 :=
      (le_max_left _ _).trans_lt ((le_sizeof_mul τ _).trans_lt fits)
    have grown : w.mCapacity + w.mCapacity / 2 < 2^64 :=
      (le_max_right _ _).trans_lt ((le_sizeof_mul τ _).trans_lt fits)
    rw [Nat.mod_eq_of_lt asked, Nat.mod_eq_of_lt grown, if_pos larger, dif_pos larger]
    exact setCapacity_spec aligned h _ fits
  · rw [dif_neg larger, if_neg (Nat.not_lt.mpr ((Nat.mod_le _ _).trans (Nat.le_of_not_lt larger)))]
    exact Gives.refl h

theorem growForSize_of_le {newSize : Nat} (h : newSize ≤ w.mCapacity) : w.growForSize newSize = w :=
  dif_neg (Nat.not_lt.mpr h)

theorem insertBack_nil (w : SmallFixedVector T SmallSize) : w.insertBack [] = w := by
  have same : w.growForSize (w.size + ([] : List T).length) = w := growForSize_of_le w.size_le
  unfold SmallFixedVector.insertBack
  simp only [same, List.append_nil]

/-- There is room for the new elements, and they are behind the others. -/
theorem Ready.append {n : Nat} {vs : List T} (ready : Ready x st t (w.growForSize n))
    (hn : w.size + vs.length = n) {m' : Memory Block T}
    (shows : m'.Shows (Function.update st t.mBegin (some ((w.growForSize n).mCapacity, w.elems ++ vs)))) :
    Gives x st t (w.insertBack vs) { t with memory := m', mEnd := n } := by
  subst hn
  exact ready.refill (w.insertBack vs) shows rfl rfl (List.length_append).symm

theorem Ready.grown {n : Nat} (ready : Ready x st t (w.growForSize n)) :
    t.mEnd = w.elems.length ∧ st t.mBegin = some ((w.growForSize n).mCapacity, w.elems) := by
  rw [ready.placed.size, ready.placed.here, SmallFixedVector.growForSize_elems]
  exact ⟨rfl, rfl⟩

theorem emplaceBack_spec (aligned : τ.alignof ≤ 8) (h : Ready x st t w)
    (asks : Asks τ w.mCapacity (w.size + 1)) (v : T) :
    Returns granted (emplaceBack τ granted t v) (Gives x st t (w.insertBack [v])) := by
  unfold emplaceBack
  rw [h.placed.size]
  refine (growForSize_spec aligned h asks).then fun t' st' ready => ?_
  obtain ⟨size, here⟩ := ready.grown
  have room : w.elems.length < (w.growForSize (w.size + 1)).mCapacity := w.le_growForSize (w.size + 1)
  rw [size]
  exact (Returns.demand (ready.shows.construct here room v)).bind fun m' shows => ready.append rfl shows

def cleared (w : SmallFixedVector T SmallSize) : SmallFixedVector T SmallSize :=
  { w with elems := [], size_le := Nat.zero_le _ }

theorem clear_spec (h : Ready x st t w) : Returns granted (clear t) (Gives x st t (cleared w)) := by
  unfold clear
  rw [h.placed.size]
  refine (destruct_spec h.shows h.placed.here (Nat.zero_le _)).bind fun m' shows => ?_
  exact h.refill (cleared w) shows rfl rfl rfl

theorem reserve_spec (aligned : τ.alignof ≤ 8) (h : Ready x st t w) {newCap : Nat}
    (fits : w.mCapacity < newCap → τ.sizeof * newCap < 2^64) :
    Returns granted (reserve τ granted t newCap)
      (Gives x st t (if larger : w.mCapacity < newCap then w.setCapacity newCap larger else w)) := by
  unfold reserve
  rw [h.placed.capacity]
  split_ifs with small larger larger
  · exact absurd larger (Nat.not_lt.mpr small)
  · exact Gives.refl h
  · exact setCapacity_spec aligned h larger (fits larger)
  · exact absurd (Nat.lt_of_not_le small) larger

theorem resizeImpl_spec (aligned : τ.alignof ≤ 8) (h : Ready x st t w) {newSize : Nat}
    (word : newSize < 2^64) (asks : Asks τ w.mCapacity newSize) (fill : Nat → T) :
    Returns granted (resizeImpl τ granted t newSize fill) (Gives x st t (w.resizeImpl newSize fill)) := by
  unfold resizeImpl SmallFixedVector.resizeImpl
  rw [h.placed.size, SmallFixedVector.size]
  split_ifs with shorter longer
  · refine (destruct_spec h.shows h.placed.here (Nat.le_of_lt shorter)).bind fun m' shows => ?_
    refine h.refill { w with elems := w.elems.take newSize, size_le := _ } shows rfl rfl ?_
    exact (List.length_take_of_le (Nat.le_of_lt shorter)).symm
  · have grown : Returns granted (growForSize τ granted t (newSize % 2^64))
        (Gives x st t (w.growForSize newSize)) := growForSize_spec aligned h asks
    rw [Nat.mod_eq_of_lt word] at grown
    refine grown.then fun t' st' ready => ?_
    obtain ⟨size, here⟩ := ready.grown
    have count : w.size + ((List.range (newSize - w.elems.length)).map fill).length = newSize := by
      rw [List.length_map, List.length_range, SmallFixedVector.size]
      omega
    rw [size]
    refine (Returns.demand (ready.shows.constructAll here ?_)).bind fun m' shows => ready.append count shows
    exact (Nat.le_of_eq count).trans (w.le_growForSize newSize)
  · have same : newSize - w.elems.length = 0 := by omega
    rw [same, List.range_zero, List.map_nil, insertBack_nil]
    exact Gives.refl h

/-- A range of values from elsewhere. -/
theorem insertBack_spec (aligned : τ.alignof ≤ 8) (h : Ready x st t w) {vs : List T}
    (asks : Asks τ w.mCapacity (w.size + vs.length)) :
    Returns granted (insertBack τ granted t (.values vs)) (Gives x st t (w.insertBack vs)) := by
  unfold insertBack
  split_ifs with none
  · obtain rfl := List.eq_nil_of_length_eq_zero none
    rw [insertBack_nil]
    exact Gives.refl h
  · rw [h.placed.size]
    refine (growForSize_spec aligned h asks).then fun t' st' ready => ?_
    obtain ⟨size, here⟩ := ready.grown
    rw [size]
    refine (Returns.demand (ready.shows.constructAll here ?_)).bind fun m' shows => ready.append rfl shows
    exact w.le_growForSize _

/-- An operation that reads a block of another vector, in which something else may be left. -/
def Draws (x : Nat) (st : Blocks T) (t : This T) (w' : SmallFixedVector T SmallSize) (b : Block)
    (block : Option (Nat × List T)) (t' : This T) : Prop :=
  ∃ st', Moves x st t.blocks t.toMembers st' t'.blocks t'.toMembers ∧ Placed st' x t'.toMembers w' ∧
    t'.memory.Shows (Function.update st' b block)

/-- The elements of another vector go behind those of this one. -/
theorem Ready.draw {b : Block} {k n : Nat} {vs : List T} (ready : Ready x st t (w.growForSize n))
    (left : T → T) (hn : w.size + vs.length = n)
    (source : st b = some (k, vs)) (other : t.mBegin ≠ b) :
    Returns granted (uninitializedCopy t.memory (.elements b vs.length left) t.mBegin t.mEnd)
      fun m' =>
        Draws x st t (w.insertBack vs) b (some (k, vs.map left)) { t with memory := m', mEnd := n } := by
  obtain ⟨size, here⟩ := ready.grown
  subst hn
  rw [size]
  have front : st b = some (k, [] ++ vs) := source
  refine (Returns.demand (ready.shows.transfer left here front other (w.le_growForSize _))).mono
    fun m' shows => ?_
  exact ⟨_, Moves.refill ready.taken ready.unused rfl,
    ready.placed.refill (w.insertBack vs) rfl rfl (List.length_append).symm, shows⟩

theorem insert_elements_spec (aligned : τ.alignof ≤ 8) (h : Ready x st t w) {b : Block} {k : Nat}
    {vs : List T} (left : T → T) (source : st b = some (k, vs)) (away : ¬Reach x t.blocks t.toMembers b)
    (asks : Asks τ w.mCapacity (w.size + vs.length)) :
    Returns granted (insertBack τ granted t (.elements b vs.length left))
      (Draws x st t (w.insertBack vs) b (some (k, vs.map left))) := by
  unfold insertBack
  split_ifs with none
  · obtain rfl := List.eq_nil_of_length_eq_zero none
    rw [insertBack_nil]
    obtain ⟨st', ready, moves⟩ := Gives.refl h
    refine ⟨st', moves, ready.placed, ?_⟩
    rw [List.map_nil, ← source, ← moves.frame b away, Function.update_eq_self]
    exact ready.shows
  · rw [h.placed.size]
    refine (growForSize_spec aligned h asks).bind fun t' grown => ?_
    obtain ⟨st', ready, moves⟩ := grown
    have kept : st' b = some (k, vs) := (moves.frame b away).trans source
    have other : t'.mBegin ≠ b := fun same => away (same ▸ moves.inside)
    refine (ready.draw left rfl kept other).bind fun m' draws => ?_
    obtain ⟨st'', moves', placed, shows⟩ := draws
    have size : t'.mEnd = w.elems.length := ready.grown.1
    rw [size]
    exact ⟨st'', moves.trans moves', placed, shows⟩

/-! What a move gives, as the vectors have it. -/

theorem insertBack_of_le {vs : List T} (h : w.size + vs.length ≤ w.mCapacity) :
    w.insertBack vs = { w with
      elems := w.elems ++ vs
      size_le := by rw [List.length_append]; exact h } := by
  have same : w.growForSize (w.size + vs.length) = w := growForSize_of_le h
  unfold SmallFixedVector.insertBack
  simp only [same]

/-- What is left of a vector that another was made of, or that was assigned to another, by moving. -/
def moveLeft (moved : T → T) (u : SmallFixedVector T SmallSize) : SmallFixedVector T SmallSize :=
  if u.isAllocated then .initInplace else leftBy moved u

theorem moveAssign_stolen {u : SmallFixedVector T SmallSize} (h : u.isAllocated = true) :
    (w.moveAssign u).1 = u := by
  rw [SmallFixedVector.moveAssign, dif_pos h]

theorem moveAssign_home {u : SmallFixedVector T SmallSize} (h : ¬u.isAllocated = true)
    (small : w.isAllocated ∧ w.mCapacity < u.size) :
    (w.moveAssign u).1 =
      (SmallFixedVector.initInplace : SmallFixedVector T SmallSize).insertBack u.elems := by
  have fits : (SmallFixedVector.initInplace : SmallFixedVector T SmallSize).size + u.elems.length ≤
      SmallSize := by
    rw [SmallFixedVector.size, SmallFixedVector.initInplace, List.length_nil, Nat.zero_add]
    exact SmallFixedVector.size_le_small h
  rw [SmallFixedVector.moveAssign, dif_neg h, dif_pos small, insertBack_of_le fits]
  rfl

theorem moveAssign_kept {u : SmallFixedVector T SmallSize} (h : ¬u.isAllocated = true)
    (large : ¬(w.isAllocated ∧ w.mCapacity < u.size)) :
    (w.moveAssign u).1 = (cleared w).insertBack u.elems := by
  have fits : (cleared w).size + u.elems.length ≤ (cleared w).mCapacity := by
    rw [SmallFixedVector.size, cleared, List.length_nil, Nat.zero_add]
    exact SmallFixedVector.size_le_kept h large
  rw [SmallFixedVector.moveAssign, dif_neg h, dif_neg large, insertBack_of_le fits]
  rfl

end

end Anbox.Common.SmallVectorMemory
