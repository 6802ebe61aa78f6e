import Anbox.Common.SmallVectorRefinement

namespace Anbox.Common.SmallVectorMemory

open Anbox.Framework

variable {T : Type} {τ : ElementType T} {SmallSize : Nat}

/-- The objects of a program and the blocks are those of the vectors: each has its own, and there are no
others. -/
structure Rep (st : Blocks T) (blocks : Nat) (object : Nat → Option Members)
    (vectors : Nat → Option (SmallFixedVector T SmallSize)) : Prop where
  placed : ∀ {x v}, object x = some v → ∃ w, vectors x = some w ∧ Placed st x v w
  absent : ∀ {x}, object x = none → vectors x = none ∧ st (.inplace x) = none
  own : ∀ {x y v v'}, object x = some v → object y = some v' → v.mBegin = v'.mBegin → x = y
  held : ∀ {n}, st (.heap n) ≠ none → ∃ x v, object x = some v ∧ v.mBegin = .heap n
  unused : ∀ n, blocks ≤ n → st (.heap n) = none

/-- The vectors that a program has. -/
def Stands (s : State T) (vectors : Nat → Option (SmallFixedVector T SmallSize)) : Prop :=
  ∃ st, s.memory.Shows st ∧ Rep st s.blocks s.object vectors

section

variable {st st' : Blocks T} {blocks blocks' x y : Nat} {object : Nat → Option Members}
  {vectors : Nat → Option (SmallFixedVector T SmallSize)} {v v' o : Members}
  {w w' u : SmallFixedVector T SmallSize}

theorem heap_ne_inplace (n x : Nat) : Block.heap n ≠ .inplace x := nofun

theorem Placed.inplace_eq (placed : Placed st x v w) (home : v.mBegin = .inplace y) : x = y := by
  obtain ⟨at_home, -⟩ | ⟨⟨n, heap⟩, -⟩ := placed.home
  · exact Block.inplace.inj (at_home.symm.trans home)
  · cases heap.symm.trans home

namespace Rep

theorem placed_of (h : Rep st blocks object vectors) (hv : object x = some v) (hw : vectors x = some w) :
    Placed st x v w := by
  obtain ⟨w', hw', placed⟩ := h.placed hv
  obtain rfl := Option.some.inj (hw.symm.trans hw')
  exact placed

/-- What belongs to another vector is out of reach. -/
theorem away (h : Rep st blocks object vectors) (hv : object x = some v) (ho : object y = some o)
    (other : y ≠ x) : ¬Reach x blocks v o.mBegin ∧ ¬Reach x blocks v (.inplace y) := by
  obtain ⟨w, hw, placed⟩ := h.placed hv
  obtain ⟨u, hu, placed'⟩ := h.placed ho
  constructor
  · intro reach
    obtain home | same | ⟨n, hn, heap⟩ := reach
    · obtain ⟨at_home, -⟩ | ⟨⟨n, heap⟩, -⟩ := placed'.home
      · exact other (Block.inplace.inj (at_home.symm.trans home))
      · cases heap.symm.trans home
    · exact other (h.own ho hv same)
    · have there := placed'.here
      rw [heap, h.unused n hn] at there
      cases there
  · intro reach
    obtain home | same | ⟨n, hn, heap⟩ := reach
    · exact other (Block.inplace.inj home)
    · obtain ⟨at_home, -⟩ | ⟨⟨n, heap⟩, -⟩ := placed.home
      · exact other (Block.inplace.inj (same.trans at_home))
      · cases same.trans heap
    · cases heap

/-- One vector is put in a place, and what the others have stays as it is. -/
theorem put (h : Rep st blocks object vectors) (placed : Placed st' x v' w')
    (kept : ∀ {y o}, y ≠ x → object y = some o →
      st' o.mBegin = st o.mBegin ∧ st' (.inplace y) = st (.inplace y) ∧ o.mBegin ≠ v'.mBegin)
    (raw : ∀ {y}, y ≠ x → object y = none → st' (.inplace y) = none)
    (held : ∀ {n}, st' (.heap n) ≠ none →
      v'.mBegin = .heap n ∨ ∃ y o, y ≠ x ∧ object y = some o ∧ o.mBegin = .heap n)
    (unused : ∀ n, blocks' ≤ n → st' (.heap n) = none) :
    Rep st' blocks' (Function.update object x (some v')) (Function.update vectors x (some w')) := by
  refine ⟨?_, ?_, ?_, ?_, unused⟩
  · intro y o ho
    obtain ⟨rfl, rfl⟩ | ⟨other, ho⟩ := update_some_eq_some ho
    · exact ⟨w', Function.update_self _ _ _, placed⟩
    · obtain ⟨u, hu, there⟩ := h.placed ho
      obtain ⟨block, home, -⟩ := kept other ho
      refine ⟨u, (Function.update_of_ne other _ _).trans hu, there.size, there.capacity,
        block.trans there.here, ?_⟩
      rw [home]
      exact there.home
  · intro y ho
    obtain ⟨other, ho⟩ := update_some_eq_none ho
    exact ⟨(Function.update_of_ne other _ _).trans (h.absent ho).1, raw other ho⟩
  · intro y z o o' ho ho' same
    obtain ⟨first, new⟩ | ⟨first, old⟩ := update_some_eq_some ho
    · obtain ⟨second, -⟩ | ⟨second, old'⟩ := update_some_eq_some ho'
      · rw [first, second]
      · rw [new] at same
        exact absurd same.symm (kept second old').2.2
    · obtain ⟨-, new'⟩ | ⟨-, old'⟩ := update_some_eq_some ho'
      · rw [new'] at same
        exact absurd same (kept first old).2.2
      · exact h.own old old' same
  · intro n there
    obtain block | ⟨y, o, other, ho, block⟩ := held there
    · exact ⟨x, v', Function.update_self _ _ _, block⟩
    · exact ⟨y, o, (Function.update_of_ne other _ _).trans ho, block⟩

/-- The frame rule: an operation on one vector keeps the others. -/
theorem moves (h : Rep st blocks object vectors) (hv : object x = some v)
    (moves : Moves x st blocks v st' blocks' v') (placed : Placed st' x v' w') :
    Rep st' blocks' (Function.update object x (some v')) (Function.update vectors x (some w')) := by
  refine h.put placed ?_ ?_ ?_ ?_
  · intro y o other ho
    obtain ⟨block, home⟩ := h.away hv ho other
    exact ⟨moves.frame _ block, moves.frame _ home, fun same => block (same ▸ moves.inside)⟩
  · intro y other ho
    have raw := (h.absent ho).2
    rw [moves.frame, raw]
    intro reach
    obtain home | same | ⟨n, hn, heap⟩ := reach
    · exact other (Block.inplace.inj home)
    · obtain ⟨w, hw, there⟩ := h.placed hv
      rw [same, there.here] at raw
      cases raw
    · cases heap
  · intro n there
    by_cases now : Block.heap n = v'.mBegin
    · exact Or.inl now.symm
    · by_cases reach : Reach x blocks v (.heap n)
      · exact absurd (moves.cleared _ reach nofun now) there
      · rw [moves.frame _ reach] at there
        obtain ⟨y, o, ho, block⟩ := h.held there
        have other : y ≠ x := by
          intro same
          rw [same] at ho
          obtain rfl := Option.some.inj (hv.symm.trans ho)
          exact reach (Or.inr (Or.inl block.symm))
        exact Or.inr ⟨y, o, other, ho, block⟩
  · intro n hn
    have new : Reach x blocks v (.heap n) := Or.inr (Or.inr ⟨n, moves.counted.trans hn, rfl⟩)
    exact moves.cleared _ new nofun (moves.taken n hn).symm

/-- The array of a new object. -/
theorem create (h : Rep st blocks object vectors) (hx : object x = none) :
    Rep (Function.update st (.inplace x) (some (SmallSize, []))) blocks
      (Function.update object x (some (initInplace SmallSize x)))
      (Function.update vectors x (some .initInplace)) := by
  refine h.put (placed_initInplace (Function.update_self _ _ _)) ?_ ?_ ?_ ?_
  · intro y o other ho
    have apart : o.mBegin ≠ .inplace x := by
      intro same
      obtain ⟨u, -, there⟩ := h.placed ho
      obtain ⟨home, -⟩ | ⟨⟨n, heap⟩, -⟩ := there.home
      · exact other (Block.inplace.inj (home.symm.trans same))
      · cases heap.symm.trans same
    exact ⟨Function.update_of_ne apart _ _,
      Function.update_of_ne (fun home => other (Block.inplace.inj home)) _ _, apart⟩
  · intro y other ho
    rw [Function.update_of_ne fun home => other (Block.inplace.inj home)]
    exact (h.absent ho).2
  · intro n there
    rw [Function.update_of_ne (heap_ne_inplace n x)] at there
    obtain ⟨y, o, ho, block⟩ := h.held there
    have other : y ≠ x := by
      intro same
      rw [same, hx] at ho
      cases ho
    exact Or.inr ⟨y, o, other, ho, block⟩
  · intro n hn
    rw [Function.update_of_ne (heap_ne_inplace n x), h.unused n hn]

/-- The end of an object that is empty and in place. -/
theorem destroy (h : Rep st blocks object vectors) (hv : object x = some v) (home : v.mBegin = .inplace x) :
    Rep (Function.update st (.inplace x) none) blocks (Function.update object x none)
      (Function.update vectors x none) := by
  refine ⟨?_, ?_, ?_, ?_, ?_⟩
  · intro y o ho
    obtain ⟨other, ho⟩ := update_none_eq_some ho
    obtain ⟨u, hu, there⟩ := h.placed ho
    refine ⟨u, (Function.update_of_ne other _ _).trans hu, there.size, there.capacity, ?_, ?_⟩
    · rw [Function.update_of_ne fun same => other (h.own ho hv (same.trans home.symm)), there.here]
    · rw [Function.update_of_ne fun home => other (Block.inplace.inj home)]
      exact there.home
  · intro y ho
    by_cases same : y = x
    · rw [same, Function.update_self, Function.update_self]
      exact ⟨rfl, rfl⟩
    · rw [Function.update_of_ne same] at ho
      obtain ⟨none, raw⟩ := h.absent ho
      rw [Function.update_of_ne same, Function.update_of_ne fun home => same (Block.inplace.inj home)]
      exact ⟨none, raw⟩
  · intro y z o o' ho ho' same
    exact h.own (update_none_eq_some ho).2 (update_none_eq_some ho').2 same
  · intro n there
    rw [Function.update_of_ne (heap_ne_inplace n x)] at there
    obtain ⟨y, o, ho, block⟩ := h.held there
    have other : y ≠ x := by
      intro same
      rw [same] at ho
      obtain rfl := Option.some.inj (hv.symm.trans ho)
      cases home.symm.trans block
    exact ⟨y, o, (Function.update_of_ne other _ _).trans ho, block⟩
  · intro n hn
    rw [Function.update_of_ne (heap_ne_inplace n x), h.unused n hn]

/-- The block of one vector becomes that of another, which is empty and in place. -/
theorem steal (h : Rep st blocks object vectors) (hx : object x = some (initInplace SmallSize x))
    (hv : vectors x = some .initInplace) (ho : object y = some o) (hu : vectors y = some u)
    (allocated : u.isAllocated = true) :
    Rep st blocks (Function.update (Function.update object x (some o)) y (some (initInplace SmallSize y)))
      (Function.update (Function.update vectors x (some u)) y (some .initInplace)) := by
  have empty := h.placed_of hx hv
  have full := h.placed_of ho hu
  obtain ⟨-, inplace⟩ | ⟨⟨k, heap⟩, -, idle⟩ := full.home
  · cases allocated.symm.trans inplace
  have other : x ≠ y := by
    intro same
    subst same
    obtain rfl := Option.some.inj (hx.symm.trans ho)
    cases heap
  have cases_of : ∀ {z p}, Function.update (Function.update object x (some o)) y
      (some (initInplace SmallSize y)) z = some p →
      z = y ∧ p = initInplace SmallSize y ∨ z = x ∧ p = o ∨ z ≠ x ∧ z ≠ y ∧ object z = some p := by
    intro z p hp
    obtain ⟨second, new⟩ | ⟨second, hp⟩ := update_some_eq_some hp
    · exact Or.inl ⟨second, new⟩
    · obtain ⟨first, new⟩ | ⟨first, hp⟩ := update_some_eq_some hp
      · exact Or.inr (Or.inl ⟨first, new⟩)
      · exact Or.inr (Or.inr ⟨first, second, hp⟩)
  have placed : ∀ {z p}, Function.update (Function.update object x (some o)) y
      (some (initInplace SmallSize y)) z = some p →
      ∃ w, Function.update (Function.update vectors x (some u)) y (some .initInplace) z = some w ∧
        Placed st z p w := by
    intro z p hp
    obtain ⟨rfl, rfl⟩ | ⟨rfl, rfl⟩ | ⟨first, second, hp⟩ := cases_of hp
    · exact ⟨_, Function.update_self _ _ _, placed_initInplace idle⟩
    · refine ⟨u, ?_, full.size, full.capacity, full.here, Or.inr ⟨⟨k, heap⟩, allocated, empty.here⟩⟩
      rw [Function.update_of_ne other, Function.update_self]
    · obtain ⟨w, hw, there⟩ := h.placed hp
      exact ⟨w, by rw [Function.update_of_ne second, Function.update_of_ne first, hw], there⟩
  refine ⟨placed, ?_, ?_, ?_, h.unused⟩
  · intro z hz
    obtain ⟨second, hz⟩ := update_some_eq_none hz
    obtain ⟨first, hz⟩ := update_some_eq_none hz
    rw [Function.update_of_ne second, Function.update_of_ne first]
    exact h.absent hz
  · intro z z' p p' hp hp' same
    cases block : p.mBegin with
    | inplace i =>
      obtain ⟨w, -, there⟩ := placed hp
      obtain ⟨w', -, there'⟩ := placed hp'
      rw [there.inplace_eq block, there'.inplace_eq (same.symm.trans block)]
    | heap n =>
      have block' := same.symm.trans block
      obtain ⟨-, rfl⟩ | ⟨first, rfl⟩ | ⟨-, away, hz⟩ := cases_of hp
      · cases block
      · obtain ⟨-, rfl⟩ | ⟨second, rfl⟩ | ⟨-, away', hz'⟩ := cases_of hp'
        · cases block'
        · rw [first, second]
        · exact absurd (h.own hz' ho same.symm) away'
      · obtain ⟨-, rfl⟩ | ⟨second, rfl⟩ | ⟨-, away', hz'⟩ := cases_of hp'
        · cases block'
        · exact absurd (h.own hz ho same) away
        · exact h.own hz hz' same
  · intro n there
    obtain ⟨z, p, hp, block⟩ := h.held there
    by_cases second : z = y
    · rw [second] at hp
      obtain rfl := Option.some.inj (ho.symm.trans hp)
      exact ⟨x, o, by rw [Function.update_of_ne other, Function.update_self], block⟩
    · by_cases first : z = x
      · rw [first] at hp
        obtain rfl := Option.some.inj (hx.symm.trans hp)
        cases block
      · exact ⟨z, p, by rw [Function.update_of_ne second, Function.update_of_ne first, hp], block⟩

/-- Other elements in a vector that is not moved. -/
theorem refill (h : Rep st blocks object vectors) (ho : object y = some o) (hu : vectors y = some u)
    (u' : SmallFixedVector T SmallSize) (capacity : u'.mCapacity = u.mCapacity)
    (isAllocated : u'.isAllocated = u.isAllocated) (size : u'.elems.length = u.elems.length) :
    Rep (Function.update st o.mBegin (some (u.mCapacity, u'.elems))) blocks object
      (Function.update vectors y (some u')) := by
  have placed := h.placed_of ho hu
  have taken : ∀ n, blocks ≤ n → o.mBegin ≠ .heap n := by
    intro n hn same
    have there := placed.here
    rw [same, h.unused n hn] at there
    cases there
  have rep := h.moves ho (Moves.refill taken h.unused rfl)
    (placed.refill u' capacity isAllocated (placed.size.trans size.symm))
  rwa [← ho, Function.update_eq_self] at rep

end Rep

/-! The operations of a program. -/

variable {s : State T} {granted : Bool} {t t' : This T}

theorem Stands.put (rep : Rep st t.blocks (Function.update s.object x
      (some t.toMembers)) (Function.update vectors x (some w))) (gives : Gives x st t w' t') :
    Stands (s.put x t') (Function.update vectors x (some w')) := by
  obtain ⟨st', ready, moves⟩ := gives
  have after := rep.moves (Function.update_self _ _ _) moves ready.placed
  rw [Function.update_idem, Function.update_idem] at after
  exact ⟨st', ready.shows, after⟩

/-- An operation on one vector. -/
theorem apply_spec (stands : Stands s vectors) (hv : s.object x = some v) (hw : vectors x = some w)
    {f : This T → Except Fault (This T)}
    (spec : ∀ st, Ready x st (s.this v) w → Returns granted (f (s.this v)) (Gives x st (s.this v) w')) :
    Returns granted (s.apply x v f) fun s' => Stands s' (Function.update vectors x (some w')) := by
  obtain ⟨st, shows, rep⟩ := stands
  refine (spec st ⟨shows, rep.placed_of hv hw, rep.unused⟩).bind fun t' gives => ?_
  obtain ⟨st', ready, moves⟩ := gives
  exact ⟨st', ready.shows, rep.moves hv moves ready.placed⟩

theorem create_spec (stands : Stands s vectors) (hx : s.object x = none) :
    Returns granted (create SmallSize s x) fun t =>
      t.toMembers = initInplace SmallSize x ∧
        ∃ st, Ready x st t (.initInplace : SmallFixedVector T SmallSize) ∧
        Rep st t.blocks (Function.update s.object x (some (initInplace SmallSize x)))
          (Function.update vectors x (some .initInplace)) := by
  obtain ⟨st, shows, rep⟩ := stands
  have raw := (rep.absent hx).2
  refine (Returns.demand (shows.allocate raw SmallSize)).bind fun m' shows' => ?_
  have rep' := rep.create hx
  exact ⟨rfl, _, ⟨shows', placed_initInplace (Function.update_self _ _ _), rep'.unused⟩, rep'⟩

theorem constructRange_spec (aligned : τ.alignof ≤ 8) (stands : Stands s vectors) (hx : s.object x = none)
    {range : List T} (asks : Asks τ SmallSize range.length) :
    Returns granted (constructRange τ SmallSize granted s x (.values range)) fun s' =>
      Stands s' (Function.update vectors x (some (.ofRange range))) := by
  refine (create_spec stands hx).bind fun t created => ?_
  obtain ⟨members, st, ready, rep⟩ := created
  rw [← Nat.zero_add range.length] at asks
  refine (insertBack_spec aligned ready asks).bind fun t' gives => ?_
  rw [← members] at rep
  exact Stands.put rep gives

/-- The same with elements of another vector, which are left in it in some way. -/
theorem Stands.put_draws (rep : Rep st t.blocks (Function.update s.object x (some t.toMembers))
      (Function.update vectors x (some w))) (other : y ≠ x) (ho : s.object y = some o)
    (hu : vectors y = some u) (left : T → T)
    (draws : Draws x st t w' o.mBegin (some (u.mCapacity, u.elems.map left)) t') :
    Stands (s.put x t')
      (Function.update (Function.update vectors x (some w')) y (some (leftBy left u))) := by
  obtain ⟨st', moves, placed, shows⟩ := draws
  have after := rep.moves (Function.update_self _ _ _) moves placed
  rw [Function.update_idem, Function.update_idem] at after
  refine ⟨_, shows, ?_⟩
  refine after.refill ((Function.update_of_ne other _ _).trans ho)
    ((Function.update_of_ne other _ _).trans hu) (leftBy left u) rfl rfl ?_
  exact List.length_map left

theorem update_leftBy_id (other : y ≠ x) (hu : vectors y = some u) :
    Function.update (Function.update vectors x (some w)) y (some (leftBy id u)) =
      Function.update vectors x (some w) := by
  rw [leftBy_id, ← hu]
  exact Function.update_eq_self_iff.mpr (Function.update_of_ne other _ _).symm

/-- A new vector with the elements of another, which are left in it in some way. -/
theorem construct_elements_spec (aligned : τ.alignof ≤ 8) (stands : Stands s vectors) (hx : s.object x = none)
    (ho : s.object y = some o) (hu : vectors y = some u) (left : T → T) (asks : Asks τ SmallSize u.size) :
    Returns granted (constructRange τ SmallSize granted s x (.elements o.mBegin o.mEnd left)) fun s' =>
      Stands s' (Function.update (Function.update vectors x (some (.ofRange u.elems))) y
        (some (leftBy left u))) := by
  have other : y ≠ x := by
    intro same
    rw [same, hx] at ho
    cases ho
  refine (create_spec stands hx).bind fun t created => ?_
  obtain ⟨members, st, ready, rep⟩ := created
  rw [← members] at rep
  have ho' := (Function.update_of_ne other (some t.toMembers) s.object).trans ho
  have hu' := (Function.update_of_ne other (some .initInplace) vectors).trans hu
  have there := rep.placed_of ho' hu'
  rw [there.size]
  rw [← Nat.zero_add u.size] at asks
  refine (insert_elements_spec aligned ready left there.here
    (rep.away (Function.update_self _ _ _) ho' other).1 asks).bind fun t' draws => ?_
  exact Stands.put_draws rep other ho hu left draws

theorem copyConstruct_spec (aligned : τ.alignof ≤ 8) (stands : Stands s vectors) (hx : s.object x = none)
    (ho : s.object y = some o) (hu : vectors y = some u) (asks : Asks τ SmallSize u.size) :
    Returns granted (copyConstruct τ SmallSize granted s x o) fun s' =>
      Stands s' (Function.update vectors x (some (.ofRange u.elems))) := by
  have other : y ≠ x := by
    intro same
    rw [same, hx] at ho
    cases ho
  rw [← update_leftBy_id other hu]
  exact construct_elements_spec aligned stands hx ho hu id asks

theorem copyAssign_spec (aligned : τ.alignof ≤ 8) (stands : Stands s vectors) (other : y ≠ x)
    (hv : s.object x = some v) (hw : vectors x = some w) (ho : s.object y = some o) (hu : vectors y = some u)
    (asks : Asks τ w.mCapacity u.size) :
    Returns granted (copyAssign τ granted s x v o) fun s' =>
      Stands s' (Function.update vectors x (some ((cleared w).insertBack u.elems))) := by
  obtain ⟨st, shows, rep⟩ := stands
  refine (clear_spec ⟨shows, rep.placed_of hv hw, rep.unused⟩).bind fun t gives => ?_
  obtain ⟨st', ready, moves⟩ := gives
  have rep' := rep.moves hv moves ready.placed
  have ho' := (Function.update_of_ne other (some t.toMembers) s.object).trans ho
  have hu' := (Function.update_of_ne other (some (cleared w)) vectors).trans hu
  have there := rep'.placed_of ho' hu'
  rw [there.size]
  rw [← Nat.zero_add u.size] at asks
  refine (insert_elements_spec aligned ready id there.here
    (rep'.away (Function.update_self _ _ _) ho' other).1 asks).bind fun t' draws => ?_
  rw [← update_leftBy_id other hu]
  exact Stands.put_draws rep' other ho hu id draws

/-- The elements of a vector that is in place go into cells that are free. -/
theorem move_elements_spec (rep : Rep st t.blocks (Function.update s.object x (some t.toMembers))
      (Function.update vectors x (some w))) (ready : Ready x st t w) (empty : w.elems = []) (other : y ≠ x)
    (ho : s.object y = some o) (hu : vectors y = some u) (fits : u.size ≤ w.mCapacity) (moved : T → T) :
    Returns granted (uninitializedCopy t.memory (.elements o.mBegin o.mEnd moved) t.mBegin 0) fun m =>
      Stands (s.put x { t with memory := m, mEnd := o.mEnd })
        (Function.update (Function.update vectors x (some (w.insertBack u.elems))) y
          (some (leftBy moved u))) := by
  have ho' := (Function.update_of_ne other (some t.toMembers) s.object).trans ho
  have hu' := (Function.update_of_ne other (some w) vectors).trans hu
  have there := rep.placed_of ho' hu'
  have outside := (rep.away (Function.update_self _ _ _) ho' other).1
  have none : w.size = 0 := by rw [SmallFixedVector.size, empty, List.length_nil]
  have front : t.mEnd = 0 := ready.placed.size.trans none
  have grown : Ready x st t (w.growForSize u.size) := (growForSize_of_le fits).symm ▸ ready
  have count : w.size + u.elems.length = u.size := by rw [none, Nat.zero_add, SmallFixedVector.size]
  have drawn : Returns granted _ _ := grown.draw moved count there.here fun same =>
    outside (Or.inr (Or.inl same.symm))
  rw [there.size]
  rw [front] at drawn
  exact drawn.mono fun m' draws => Stands.put_draws rep other ho hu moved draws

theorem steal_spec {memory : Memory Block T} {blocks : Nat} (shows : memory.Shows st)
    (rep : Rep st blocks (Function.update s.object x (some (initInplace SmallSize x)))
      (Function.update vectors x (some .initInplace))) (other : y ≠ x) (ho : s.object y = some o)
    (hu : vectors y = some u) (allocated : u.isAllocated = true) :
    Stands
      { s.put x { toMembers := o, memory := memory, blocks := blocks } with
        object := Function.update (s.put x { toMembers := o, memory := memory, blocks := blocks }).object y
          (some (initInplace SmallSize y)) }
      (Function.update (Function.update vectors x (some u)) y (some .initInplace)) := by
  have stolen := rep.steal (Function.update_self _ _ _) (Function.update_self _ _ _)
    ((Function.update_of_ne other _ _).trans ho) ((Function.update_of_ne other _ _).trans hu) allocated
  rw [Function.update_idem, Function.update_idem] at stolen
  exact ⟨st, shows, stolen⟩

theorem moveConstruct_spec (aligned : τ.alignof ≤ 8) (stands : Stands s vectors) (hx : s.object x = none)
    (ho : s.object y = some o) (hu : vectors y = some u) :
    Returns granted (moveConstruct τ SmallSize s x y o) fun s' =>
      Stands s' (Function.update (Function.update vectors x
        (some ((SmallFixedVector.initInplace : SmallFixedVector T SmallSize).moveAssign u).1)) y
          (some (moveLeft τ.moved u))) := by
  have other : y ≠ x := by
    intro same
    rw [same, hx] at ho
    cases ho
  refine (create_spec stands hx).bind fun t created => ?_
  obtain ⟨members, st, ready, rep⟩ := created
  obtain ⟨st₀, -, rep₀⟩ := stands
  rw [(rep₀.placed_of ho hu).isAllocated_eq aligned]
  by_cases allocated : u.isAllocated = true
  · rw [if_pos allocated, moveAssign_stolen allocated, moveLeft, if_pos allocated]
    exact steal_spec ready.shows rep other ho hu allocated
  · rw [if_neg allocated, moveLeft, if_neg allocated, moveAssign_kept allocated fun h =>
      Bool.false_ne_true h.1]
    have fits : u.size ≤ (SmallFixedVector.initInplace : SmallFixedVector T SmallSize).mCapacity :=
      SmallFixedVector.size_le_small allocated
    have moved : Returns granted _ _ :=
      move_elements_spec (members ▸ rep) ready rfl other ho hu fits τ.moved
    obtain ⟨⟨b, e, c⟩, m, k⟩ := t
    obtain ⟨rfl, rfl, rfl⟩ := Members.mk.inj members
    exact moved.bind fun m' stands' => stands'

/-- The vector is made empty, wherever it then is, before the elements of the other come. -/
theorem cleared_for_move_spec (aligned : τ.alignof ≤ 8) (ready : Ready x st (s.this v) w) (small : Prop)
    [Decidable small] :
    Returns granted
      (if small then
        (dtor τ (s.this v)).bind fun m =>
          .ok ({ initInplace SmallSize x with memory := m, blocks := s.blocks } : This T)
      else (destruct s.memory v.mBegin 0 v.mEnd).bind fun m => .ok { s.this v with memory := m })
      fun t => Gives x st (s.this v) (if small then .initInplace else cleared w) { t with mEnd := 0 } := by
  split_ifs
  · exact (dtor_spec aligned ready.shows ready.placed).bind fun m' shows => ready.emptied shows
  · have size : v.mEnd = w.elems.length := ready.placed.size
    rw [size]
    refine (destruct_spec ready.shows ready.placed.here (Nat.zero_le _)).bind fun m' shows => ?_
    exact ready.refill (cleared w) shows rfl rfl rfl

theorem moveAssign_spec (aligned : τ.alignof ≤ 8) (stands : Stands s vectors) (other : y ≠ x)
    (hv : s.object x = some v) (hw : vectors x = some w) (ho : s.object y = some o)
    (hu : vectors y = some u) :
    Returns granted (moveAssign τ SmallSize s x y v o) fun s' =>
      Stands s' (Function.update (Function.update vectors x (some (w.moveAssign u).1)) y
        (some (moveLeft τ.moved u))) := by
  obtain ⟨st, shows, rep⟩ := stands
  have placed := rep.placed_of hv hw
  have there := rep.placed_of ho hu
  have ready : Ready x st (s.this v) w := ⟨shows, placed, rep.unused⟩
  unfold moveAssign
  rw [there.isAllocated_eq aligned, placed.isAllocated_eq aligned, placed.capacity]
  by_cases allocated : u.isAllocated = true
  · rw [if_pos allocated, moveAssign_stolen allocated, moveLeft, if_pos allocated]
    refine (dtor_spec aligned ready.shows ready.placed).bind fun m shows' => ?_
    obtain ⟨st', ready', moves⟩ := ready.emptied shows'
    exact steal_spec ready'.shows (rep.moves hv moves ready'.placed) other ho hu allocated
  · rw [if_neg allocated, moveLeft, if_neg allocated]
    refine (cleared_for_move_spec aligned ready _).bind fun t gives => ?_
    obtain ⟨st', ready', moves⟩ := gives
    have rep' := rep.moves hv moves ready'.placed
    have arrived : (if w.isAllocated = true ∧ w.mCapacity < o.mEnd then .initInplace
        else cleared w).insertBack u.elems = (w.moveAssign u).1 := by
      rw [there.size]
      split_ifs with small
      · exact (moveAssign_home allocated small).symm
      · exact (moveAssign_kept allocated small).symm
    rw [← arrived]
    refine (move_elements_spec rep' ready' ?_ other ho hu ?_ τ.moved).bind fun m' stands' => stands'
    · split_ifs <;> rfl
    · split_ifs with small
      · exact SmallFixedVector.size_le_small allocated
      · rw [there.size] at small
        exact SmallFixedVector.size_le_kept allocated small

theorem destroy_spec (aligned : τ.alignof ≤ 8) (stands : Stands s vectors) (hv : s.object x = some v)
    (hw : vectors x = some w) :
    Returns granted (destroy τ s x v) fun s' => Stands s' (Function.update vectors x none) := by
  obtain ⟨st, shows, rep⟩ := stands
  have ready : Ready x st (s.this v) w := ⟨shows, rep.placed_of hv hw, rep.unused⟩
  refine (dtor_spec aligned ready.shows ready.placed).bind fun m shows' => ?_
  obtain ⟨st', ready', moves⟩ := ready.emptied shows'
  have rep' := rep.moves hv moves ready'.placed
  refine (Returns.demand (ready'.shows.release ready'.placed.here)).bind fun m' shows'' => ?_
  have gone := rep'.destroy (Function.update_self _ _ _) rfl
  rw [Function.update_idem, Function.update_idem] at gone
  exact ⟨_, shows'', gone⟩

end

end Anbox.Common.SmallVectorMemory
