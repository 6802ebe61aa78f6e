import Anbox.Common.SmallVectorObjects
import Anbox.Framework.Run

namespace Anbox.Common.SmallVectorMemory

open Anbox.Framework

variable {T : Type} {τ : ElementType T} {SmallSize : Nat}

inductive Operation (T : Type) where
  | construct (x : Nat) (range : List T)
  /-- From a vector that is const, or with `=`. -/
  | copyConstruct (x y : Nat)
  /-- `SmallFixedVector x(y)` of a vector that is not const: `Range&&` is the better match. -/
  | directConstruct (x y : Nat)
  | moveConstruct (x y : Nat)
  | copyAssign (x y : Nat)
  | moveAssign (x y : Nat)
  | reserve (x : Nat) (newCap : UInt64)
  | resize (x : Nat) (newSize : UInt64)
  /-- With the values that the new elements are written with. -/
  | resizeNoinit (x : Nat) (newSize : UInt64) (written : Nat → T)
  | pushBack (x : Nat) (v : T)
  | clear (x : Nat)
  | destroy (x : Nat)

section

variable (τ : ElementType T) (SmallSize : Nat)

/-- What the code does; `none` when there are no such objects to do it with. -/
def State.exec (granted : Bool) (s : State T) : Operation T → Option (Except Fault (State T))
  | .construct x range =>
    match s.object x with
    | none => some (constructRange τ SmallSize granted s x (.values range))
    | some _ => none
  | .copyConstruct x y =>
    match s.object x, s.object y with
    | none, some o => some (SmallVectorMemory.copyConstruct τ SmallSize granted s x o)
    | _, _ => none
  | .directConstruct x y =>
    match s.object x, s.object y with
    | none, some o => some (rangeConstruct τ SmallSize granted s x o)
    | _, _ => none
  | .moveConstruct x y =>
    match s.object x, s.object y with
    | none, some o => some (SmallVectorMemory.moveConstruct τ SmallSize s x y o)
    | _, _ => none
  | .copyAssign x y =>
    match s.object x, s.object y with
    | some v, some o => if y = x then none else some (SmallVectorMemory.copyAssign τ granted s x v o)
    | _, _ => none
  | .moveAssign x y =>
    match s.object x, s.object y with
    | some v, some o => if y = x then none else some (SmallVectorMemory.moveAssign τ SmallSize s x y v o)
    | _, _ => none
  | .reserve x newCap =>
    (s.object x).map fun v => s.apply x v fun t => SmallVectorMemory.reserve τ granted t newCap.toNat
  | .resize x newSize =>
    (s.object x).map fun v => s.apply x v fun t => resizeImpl τ granted t newSize.toNat fun _ => τ.fresh
  | .resizeNoinit x newSize written =>
    (s.object x).map fun v => s.apply x v fun t => resizeImpl τ granted t newSize.toNat written
  | .pushBack x e => (s.object x).map fun v => s.apply x v fun t => emplaceBack τ granted t e
  | .clear x => (s.object x).map fun v => s.apply x v SmallVectorMemory.clear
  | .destroy x => (s.object x).map fun v => SmallVectorMemory.destroy τ s x v

/-- A list, or nothing known of it after it was moved from. -/
abbrev Lists (T : Type) : Type := Nat → Option (Option (List T))

def resized (newSize : Nat) (fill : Nat → T) (vs : List T) : List T :=
  vs.take newSize ++ (List.range (newSize - vs.length)).map fill

/-- The same operations on plain lists. -/
def Operation.plain (lists : Lists T) : Operation T → Lists T
  | construct x range => Function.update lists x (some (some range))
  | copyConstruct x y => Function.update lists x (lists y)
  | directConstruct x y => Function.update lists x (lists y)
  | moveConstruct x y => Function.update (Function.update lists x (lists y)) y (some none)
  | copyAssign x y => Function.update lists x (lists y)
  | moveAssign x y => Function.update (Function.update lists x (lists y)) y (some none)
  | reserve _ _ => lists
  | resize x newSize =>
    Function.update lists x ((lists x).map (·.map (resized newSize.toNat fun _ => τ.fresh)))
  | resizeNoinit x newSize written =>
    Function.update lists x ((lists x).map (·.map (resized newSize.toNat written)))
  | pushBack x v => Function.update lists x ((lists x).map (·.map (· ++ [v])))
  | clear x => Function.update lists x (some (some []))
  | destroy x => Function.update lists x none

/-- A program with the lists next to it. `refused` is whether `malloc` found no memory. -/
structure Program (T : Type) where
  code : Except Fault (State T)
  lists : Lists T
  refused : Bool

def start : Program T where
  code := .ok ⟨.empty, 0, fun _ => none⟩
  lists := fun _ => none
  refused := false

/-- The next operation, and whether `malloc` finds memory in it. -/
def step (p : Program T) (a : Bool × Operation T) : Option (Program T) :=
  match p.code with
  | .error _ => none
  | .ok s => (s.exec τ SmallSize a.1 a.2).map fun r => ⟨r, a.2.plain τ p.lists, !a.1⟩

/-- The elements that can be seen through a vector. -/
def State.observed (s : State T) (v : Members) : List (Option T) :=
  (List.range v.mEnd).map fun i => s.memory.read (v.mBegin, i)

/-- The vectors refine the lists. -/
structure Refines (s : State T) (lists : Lists T) : Prop where
  objects : ∀ x, (s.object x).isSome = (lists x).isSome
  contents : ∀ x v vs, s.object x = some v → lists x = some (some vs) → s.observed v = vs.map some
  size : ∀ x v, s.object x = some v → v.mEnd ≤ v.mCapacity
  inplace : ∀ x v, s.object x = some v → v.mBegin = .inplace x → v.mCapacity = SmallSize
  heap : ∀ x v, s.object x = some v → v.mBegin ≠ .inplace x → SmallSize < v.mCapacity
  /-- All elements that are alive are those of the vectors. -/
  alive : ∀ p, s.memory.cell p ≠ none ↔ ∃ x v, s.object x = some v ∧ p.1 = v.mBegin ∧ p.2 < v.mEnd
  /-- An element that was constructed is in one cell and was never destroyed, or is in none and was
  destroyed once. -/
  once : ∀ id < s.memory.next,
    (s.memory.destroyed id = 0 ∧ ∃! p, ∃ v, s.memory.cell p = some (id, v)) ∨
    (s.memory.destroyed id = 1 ∧ ∀ p v, s.memory.cell p ≠ some (id, v))

/-- No element is read, destroyed or written over that is not there, and the program goes on as long as
there is memory. -/
def Program.Good (p : Program T) : Prop :=
  match p.code with
  | .ok s => Refines SmallSize s p.lists
  | .error .abort => p.refused = true
  | .error .undefined => False

/-- No size in bytes is more than what 64 bits hold, and a vector that is not const is copied by direct
initialization only when moving its elements leaves them as they are. -/
def Proper (p : Program T) (a : Bool × Operation T) : Prop :=
  match p.code with
  | .error _ => True
  | .ok s =>
    match a.2 with
    | .construct _ range => Asks τ SmallSize range.length
    | .copyConstruct _ y => ∀ o, s.object y = some o → Asks τ SmallSize o.mEnd
    | .directConstruct _ y => (∀ o, s.object y = some o → Asks τ SmallSize o.mEnd) ∧
        ∀ vs, p.lists y = some (some vs) → ∀ e ∈ vs, τ.moved e = e
    | .copyAssign x y => ∀ v o, s.object x = some v → s.object y = some o → Asks τ v.mCapacity o.mEnd
    | .reserve x newCap =>
      ∀ v, s.object x = some v → v.mCapacity < newCap.toNat → τ.sizeof * newCap.toNat < 2^64
    | .resize x newSize => ∀ v, s.object x = some v → Asks τ v.mCapacity newSize.toNat
    | .resizeNoinit x newSize _ => ∀ v, s.object x = some v → Asks τ v.mCapacity newSize.toNat
    | .pushBack x _ => ∀ v, s.object x = some v → Asks τ v.mCapacity (v.mEnd + 1)
    | _ => True

end

/-! What a program keeps. -/

/-- The vector has the elements of the list, if those are known. -/
def Matches (list : Option (Option (List T))) (vector : Option (SmallFixedVector T SmallSize)) : Prop :=
  (vector.isSome = list.isSome) ∧ ∀ w vs, vector = some w → list = some (some vs) → w.elems = vs

def Agree (lists : Lists T) (vectors : Nat → Option (SmallFixedVector T SmallSize)) : Prop :=
  ∀ x, Matches (lists x) (vectors x)

section

variable {s : State T} {lists : Lists T} {vectors : Nat → Option (SmallFixedVector T SmallSize)}
  {x y : Nat} {v o : Members} {w w' u : SmallFixedVector T SmallSize} {granted : Bool}

theorem Agree.update (agree : Agree lists vectors) {list : Option (Option (List T))}
    {vector : Option (SmallFixedVector T SmallSize)} (h : Matches list vector) :
    Agree (Function.update lists x list) (Function.update vectors x vector) := by
  intro y
  by_cases same : y = x
  · subst same
    rw [Function.update_self, Function.update_self]
    exact h
  · rw [Function.update_of_ne same, Function.update_of_ne same]
    exact agree y

theorem matches_some (w : SmallFixedVector T SmallSize) : Matches (some (some w.elems)) (some w) := by
  refine ⟨rfl, ?_⟩
  intro w' vs hw hvs
  obtain rfl := Option.some.inj hw
  exact Option.some.inj (Option.some.inj hvs)

/-- Nothing is known of a vector that was moved from. -/
theorem matches_unknown (w : SmallFixedVector T SmallSize) : Matches (some none) (some w) := by
  refine ⟨rfl, ?_⟩
  intro w' vs _ hvs
  cases Option.some.inj hvs

theorem matches_none : Matches none (none : Option (SmallFixedVector T SmallSize)) := ⟨rfl, nofun⟩

theorem Agree.known (agree : Agree lists vectors) (hw : vectors x = some w) :
    ∃ list, lists x = some list ∧ ∀ vs, list = some vs → w.elems = vs := by
  obtain ⟨same, elems⟩ := agree x
  rw [hw, Option.isSome_some] at same
  obtain ⟨list, hlist⟩ := Option.isSome_iff_exists.mp same.symm
  exact ⟨list, hlist, fun vs hvs => elems w vs hw (hvs ▸ hlist)⟩

/-- A vector with the elements of another matches what is known of that. -/
theorem Agree.copied (agree : Agree lists vectors) (hu : vectors y = some u) (same : w.elems = u.elems) :
    Matches (lists y) (some w) := by
  obtain ⟨list, hlist, elems⟩ := agree.known hu
  rw [hlist]
  refine ⟨rfl, ?_⟩
  intro w' vs hw hvs
  obtain rfl := Option.some.inj hw
  rw [same]
  exact elems vs (Option.some.inj hvs)

theorem Agree.mapped (agree : Agree lists vectors) (hw : vectors x = some w) (g : List T → List T)
    (elems : w'.elems = g w.elems) : Matches ((lists x).map (·.map g)) (some w') := by
  obtain ⟨list, hlist, known⟩ := agree.known hw
  rw [hlist]
  refine ⟨rfl, ?_⟩
  intro w'' vs hw' hvs
  obtain rfl := Option.some.inj hw'
  obtain ⟨us, hus, rfl⟩ := Option.map_eq_some_iff.mp (Option.some.inj hvs)
  rw [elems, known us hus]

theorem Stands.vector (stands : Stands s vectors) (hv : s.object x = some v) :
    ∃ w, vectors x = some w ∧ v.mEnd = w.size ∧ v.mCapacity = w.mCapacity := by
  obtain ⟨st, -, rep⟩ := stands
  obtain ⟨w, hw, placed⟩ := rep.placed hv
  exact ⟨w, hw, placed.size, placed.capacity⟩

/-- A program goes on with vectors that agree with the lists. -/
def Kept (s : State T) (lists : Lists T) (SmallSize : Nat) : Prop :=
  ∃ vectors : Nat → Option (SmallFixedVector T SmallSize), Stands s vectors ∧ Agree lists vectors

theorem resizeImpl_elems (w : SmallFixedVector T SmallSize) (newSize : Nat) (fill : Nat → T) :
    (w.resizeImpl newSize fill).elems = resized newSize fill w.elems := by
  unfold SmallFixedVector.resizeImpl resized SmallFixedVector.size
  split_ifs with shorter
  · rw [Nat.sub_eq_zero_of_le (Nat.le_of_lt shorter), List.range_zero, List.map_nil, List.append_nil]
  · rw [List.take_of_length_le (Nat.le_of_not_lt shorter)]
    rfl

/-- An operation on one vector, which changes the elements as `g` says. -/
theorem apply_kept (stands : Stands s vectors) (agree : Agree lists vectors) (hv : s.object x = some v)
    (hw : vectors x = some w) (g : List T → List T) (elems : w'.elems = g w.elems)
    {f : This T → Except Fault (This T)}
    (spec : ∀ st, Ready x st (s.this v) w → Returns granted (f (s.this v)) (Gives x st (s.this v) w')) :
    Returns granted (s.apply x v f) fun s' =>
      Kept s' (Function.update lists x ((lists x).map (·.map g))) SmallSize :=
  (apply_spec stands hv hw spec).mono fun _ stands' => ⟨_, stands', agree.update (agree.mapped hw g elems)⟩

theorem construct_kept (aligned : τ.alignof ≤ 8) (stands : Stands s vectors) (agree : Agree lists vectors)
    (hx : s.object x = none) {range : List T} (asks : Asks τ SmallSize range.length) :
    Returns granted (constructRange τ SmallSize granted s x (.values range)) fun s' =>
      Kept s' (Function.update lists x (some (some range))) SmallSize :=
  (constructRange_spec aligned stands hx asks).mono fun _ stands' =>
    ⟨_, stands', agree.update (matches_some (.ofRange range))⟩

theorem copyConstruct_kept (aligned : τ.alignof ≤ 8) (stands : Stands s vectors)
    (agree : Agree lists vectors) (hx : s.object x = none) (ho : s.object y = some o) (asks : Asks τ SmallSize o.mEnd) :
    Returns granted (copyConstruct τ SmallSize granted s x o) fun s' =>
      Kept s' (Function.update lists x (lists y)) SmallSize := by
  obtain ⟨u, hu, size, -⟩ := stands.vector ho
  rw [size] at asks
  refine (copyConstruct_spec aligned stands hx ho hu asks).mono fun _ stands' => ⟨_, stands', ?_⟩
  exact agree.update (agree.copied hu rfl)

/-- The elements that were moved out are as they were. -/
theorem direct_construct_kept (aligned : τ.alignof ≤ 8) (stands : Stands s vectors)
    (agree : Agree lists vectors) (hx : s.object x = none) (ho : s.object y = some o)
    (asks : Asks τ SmallSize o.mEnd) (same : ∀ vs, lists y = some (some vs) → ∀ e ∈ vs, τ.moved e = e) :
    Returns granted (rangeConstruct τ SmallSize granted s x o) fun s' =>
      Kept s' (Function.update lists x (lists y)) SmallSize := by
  have other : y ≠ x := by
    intro one
    rw [one, hx] at ho
    cases ho
  obtain ⟨u, hu, size, -⟩ := stands.vector ho
  rw [size] at asks
  refine (construct_elements_spec aligned stands hx ho hu τ.moved asks).mono fun _ stands' => ⟨_, stands', ?_⟩
  have left : Matches (lists y) (some (leftBy τ.moved u)) := by
    obtain ⟨list, hlist, known⟩ := agree.known hu
    rw [hlist]
    refine ⟨rfl, ?_⟩
    intro w vs hw hvs
    obtain rfl := Option.some.inj hw
    have elems := known vs (Option.some.inj hvs)
    rw [← elems] at hvs ⊢
    exact (List.map_congr_left (same u.elems (hlist.trans hvs))).trans (List.map_id _)
  have after := (agree.update (x := x) (agree.copied (w := .ofRange u.elems) hu rfl)).update (x := y) left
  have back : Function.update (Function.update lists x (lists y)) y (lists y) =
      Function.update lists x (lists y) :=
    Function.update_eq_self_iff.mpr (Function.update_of_ne other _ _).symm
  rwa [back] at after

theorem moveConstruct_kept (aligned : τ.alignof ≤ 8) (stands : Stands s vectors)
    (agree : Agree lists vectors) (hx : s.object x = none) (ho : s.object y = some o) :
    Returns granted (moveConstruct τ SmallSize s x y o) fun s' =>
      Kept s' (Function.update (Function.update lists x (lists y)) y (some none)) SmallSize := by
  obtain ⟨u, hu, -, -⟩ := stands.vector ho
  refine (moveConstruct_spec aligned stands hx ho hu).mono fun _ stands' => ⟨_, stands', ?_⟩
  exact (agree.update (agree.copied hu (SmallFixedVector.moveAssign_elems _ u))).update (matches_unknown _)

theorem copyAssign_kept (aligned : τ.alignof ≤ 8) (stands : Stands s vectors) (agree : Agree lists vectors)
    (other : y ≠ x) (hv : s.object x = some v) (ho : s.object y = some o) (asks : Asks τ v.mCapacity o.mEnd) :
    Returns granted (copyAssign τ granted s x v o) fun s' =>
      Kept s' (Function.update lists x (lists y)) SmallSize := by
  obtain ⟨w, hw, -, capacity⟩ := stands.vector hv
  obtain ⟨u, hu, size, -⟩ := stands.vector ho
  rw [size, capacity] at asks
  refine (copyAssign_spec aligned stands other hv hw ho hu asks).mono fun _ stands' => ⟨_, stands', ?_⟩
  exact agree.update (agree.copied hu rfl)

theorem moveAssign_kept' (aligned : τ.alignof ≤ 8) (stands : Stands s vectors) (agree : Agree lists vectors)
    (other : y ≠ x) (hv : s.object x = some v) (ho : s.object y = some o) :
    Returns granted (moveAssign τ SmallSize s x y v o) fun s' =>
      Kept s' (Function.update (Function.update lists x (lists y)) y (some none)) SmallSize := by
  obtain ⟨w, hw, -, -⟩ := stands.vector hv
  obtain ⟨u, hu, -, -⟩ := stands.vector ho
  refine (moveAssign_spec aligned stands other hv hw ho hu).mono fun _ stands' => ⟨_, stands', ?_⟩
  exact (agree.update (agree.copied hu (SmallFixedVector.moveAssign_elems w u))).update (matches_unknown _)

/-! Which objects an operation needs. -/

theorem of_new {ρ : Type} {a b : Option Members} {f : Members → ρ} {r : ρ}
    (h : (match a, b with
      | none, some o => some (f o)
      | _, _ => none) = some r) : a = none ∧ ∃ o, b = some o ∧ f o = r := by
  cases a with
  | some v => cases b <;> cases h
  | none =>
    cases b with
    | none => cases h
    | some o => exact ⟨rfl, o, rfl, Option.some.inj h⟩

theorem of_distinct {ρ : Type} {a b : Option Members} {f : Members → Members → ρ} {r : ρ}
    (h : (match a, b with
      | some v, some o => if y = x then none else some (f v o)
      | _, _ => none) = some r) : y ≠ x ∧ ∃ v o, a = some v ∧ b = some o ∧ f v o = r := by
  cases a with
  | none => cases b <;> cases h
  | some v =>
    cases b with
    | none => cases h
    | some o =>
      obtain ⟨other, same⟩ := Option.ite_none_left_eq_some.mp h
      exact ⟨other, v, o, rfl, rfl, Option.some.inj same⟩

/-- One step: the operation does what it does to the lists, or there is no memory. -/
theorem exec_kept (aligned : τ.alignof ≤ 8) (stands : Stands s vectors) (agree : Agree lists vectors)
    {refused : Bool} {op : Operation T} (proper : Proper τ SmallSize ⟨.ok s, lists, refused⟩ (granted, op))
    {r : Except Fault (State T)} (h : s.exec τ SmallSize granted op = some r) :
    Returns granted r fun s' => Kept s' (op.plain τ lists) SmallSize := by
  cases op with
  | construct x range =>
    cases hx : s.object x with
    | some v =>
      simp only [State.exec, hx] at h
      cases h
    | none =>
      simp only [State.exec, hx] at h
      obtain rfl := Option.some.inj h
      exact construct_kept aligned stands agree hx proper
  | copyConstruct x y =>
    obtain ⟨hx, o, ho, rfl⟩ := of_new h
    exact copyConstruct_kept aligned stands agree hx ho (proper o ho)
  | directConstruct x y =>
    obtain ⟨hx, o, ho, rfl⟩ := of_new h
    exact direct_construct_kept aligned stands agree hx ho (proper.1 o ho) proper.2
  | moveConstruct x y =>
    obtain ⟨hx, o, ho, rfl⟩ := of_new h
    exact moveConstruct_kept aligned stands agree hx ho
  | copyAssign x y =>
    obtain ⟨other, v, o, hv, ho, rfl⟩ := of_distinct h
    exact copyAssign_kept aligned stands agree other hv ho (proper v o hv ho)
  | moveAssign x y =>
    obtain ⟨other, v, o, hv, ho, rfl⟩ := of_distinct h
    exact moveAssign_kept' aligned stands agree other hv ho
  | reserve x newCap =>
    obtain ⟨v, hv, rfl⟩ := Option.map_eq_some_iff.mp h
    obtain ⟨w, hw, -, capacity⟩ := stands.vector hv
    have fits := proper v hv
    rw [capacity] at fits
    refine (apply_spec stands hv hw fun st ready => reserve_spec aligned ready fits).mono fun _ stands' =>
      ⟨_, stands', ?_⟩
    have elems : (if larger : w.mCapacity < newCap.toNat then w.setCapacity newCap.toNat larger
        else w).elems = w.elems := by split_ifs <;> rfl
    have known := agree.update (x := x) (agree.copied hw elems)
    rwa [Function.update_eq_self] at known
  | resize x newSize =>
    obtain ⟨v, hv, rfl⟩ := Option.map_eq_some_iff.mp h
    obtain ⟨w, hw, -, capacity⟩ := stands.vector hv
    have asks := proper v hv
    rw [capacity] at asks
    exact apply_kept stands agree hv hw _ (resizeImpl_elems w _ _) fun st ready =>
      resizeImpl_spec aligned ready newSize.toNat_lt asks _
  | resizeNoinit x newSize written =>
    obtain ⟨v, hv, rfl⟩ := Option.map_eq_some_iff.mp h
    obtain ⟨w, hw, -, capacity⟩ := stands.vector hv
    have asks := proper v hv
    rw [capacity] at asks
    exact apply_kept stands agree hv hw _ (resizeImpl_elems w _ _) fun st ready =>
      resizeImpl_spec aligned ready newSize.toNat_lt asks _
  | pushBack x e =>
    obtain ⟨v, hv, rfl⟩ := Option.map_eq_some_iff.mp h
    obtain ⟨w, hw, size, capacity⟩ := stands.vector hv
    have asks := proper v hv
    rw [size, capacity] at asks
    exact apply_kept stands agree hv hw (· ++ [e]) rfl fun st ready => emplaceBack_spec aligned ready asks e
  | clear x =>
    obtain ⟨v, hv, rfl⟩ := Option.map_eq_some_iff.mp h
    obtain ⟨w, hw, -, -⟩ := stands.vector hv
    refine (apply_spec stands hv hw fun st ready => clear_spec ready).mono fun _ stands' => ⟨_, stands', ?_⟩
    exact agree.update (matches_some (cleared w))
  | destroy x =>
    obtain ⟨v, hv, rfl⟩ := Option.map_eq_some_iff.mp h
    obtain ⟨w, hw, -, -⟩ := stands.vector hv
    refine (destroy_spec aligned stands hv hw).mono fun _ stands' => ⟨_, stands', ?_⟩
    exact agree.update matches_none

/-! What is kept says that the vectors refine the lists. -/

theorem Rep.owner {st : Blocks T} {blocks : Nat} {object : Nat → Option Members} {b : Block} {n : Nat}
    {vs : List T} (rep : Rep st blocks object vectors) (here : st b = some (n, vs)) (some_in : vs ≠ []) :
    ∃ x v, object x = some v ∧ v.mBegin = b ∧ v.mEnd = vs.length := by
  have count : ∀ {x v} {w : SmallFixedVector T SmallSize}, Placed st x v w → v.mBegin = b →
      v.mEnd = vs.length := by
    intro x v w placed block
    have same := placed.here
    rw [block, here] at same
    rw [placed.size, (Prod.mk.inj (Option.some.inj same)).2]
  cases b with
  | inplace x =>
    cases hx : object x with
    | none =>
      rw [(rep.absent hx).2] at here
      cases here
    | some v =>
      obtain ⟨w, -, placed⟩ := rep.placed hx
      obtain ⟨home, -⟩ | ⟨-, -, idle⟩ := placed.home
      · exact ⟨x, v, hx, home, count placed home⟩
      · rw [idle] at here
        exact absurd (Prod.mk.inj (Option.some.inj here)).2.symm some_in
  | heap n =>
    obtain ⟨x, v, hx, block⟩ := rep.held (here ▸ Option.some_ne_none _)
    obtain ⟨w, -, placed⟩ := rep.placed hx
    exact ⟨x, v, hx, block, count placed block⟩

/-- What is alive is in the vectors. -/
theorem Stands.alive (stands : Stands s vectors) (p : Block × Nat) :
    s.memory.cell p ≠ none ↔ ∃ x v, s.object x = some v ∧ p.1 = v.mBegin ∧ p.2 < v.mEnd := by
  obtain ⟨st, shows, rep⟩ := stands
  rw [ne_eq, ← Memory.read_eq_none, shows.value]
  constructor
  · intro there
    obtain ⟨e, he⟩ := Option.ne_none_iff_exists'.mp there
    obtain ⟨⟨n, vs⟩, here, inside⟩ := Option.bind_eq_some_iff.mp he
    obtain ⟨lt, -⟩ := List.getElem?_eq_some_iff.mp inside
    obtain ⟨x, v, hv, block, count⟩ := rep.owner here (List.ne_nil_of_length_pos (Nat.zero_lt_of_lt lt))
    exact ⟨x, v, hv, block.symm, count ▸ lt⟩
  · intro there
    obtain ⟨x, v, hv, block, lt⟩ := there
    obtain ⟨w, -, placed⟩ := rep.placed hv
    rw [block, placed.here, Option.bind_some, List.getElem?_eq_none_iff, ← placed.size]
    exact Nat.not_le.mpr lt

theorem Stands.observed (stands : Stands s vectors) (hv : s.object x = some v) (hw : vectors x = some w) :
    s.observed v = w.elems.map some := by
  obtain ⟨st, shows, rep⟩ := stands
  have placed := rep.placed_of hv hw
  refine List.ext_getElem ?_ ?_
  · rw [State.observed, List.length_map, List.length_range, List.length_map, placed.size]
  · intro i _ lt
    rw [List.length_map] at lt
    simp only [State.observed, List.getElem_map, List.getElem_range]
    rw [shows.value_of placed.here, List.getElem?_eq_getElem lt]

theorem Kept.refines (kept : Kept s lists SmallSize) : Refines SmallSize s lists := by
  obtain ⟨vectors, stands, agree⟩ := kept
  obtain ⟨st, shows, rep⟩ := id stands
  refine ⟨?_, ?_, ?_, ?_, ?_, stands.alive, fun id => s.memory.alive_or_destroyed⟩
  · intro x
    rw [← (agree x).1]
    cases hx : s.object x with
    | none =>
      rw [(rep.absent hx).1]
      rfl
    | some v =>
      obtain ⟨w, hw, -⟩ := rep.placed hx
      rw [hw]
      rfl
  · intro x v vs hv hvs
    obtain ⟨w, hw, -⟩ := rep.placed hv
    rw [stands.observed hv hw, (agree x).2 w vs hw hvs]
  · intro x v hv
    obtain ⟨w, -, placed⟩ := rep.placed hv
    rw [placed.size, placed.capacity]
    exact w.size_le
  · intro x v hv home
    obtain ⟨w, -, placed⟩ := rep.placed hv
    obtain ⟨-, inplace⟩ | ⟨⟨n, heap⟩, -⟩ := placed.home
    · exact placed.capacity.trans (w.inplace inplace)
    · cases heap.symm.trans home
  · intro x v hv away
    obtain ⟨w, -, placed⟩ := rep.placed hv
    obtain ⟨home, -⟩ | ⟨-, allocated, -⟩ := placed.home
    · exact absurd home away
    · exact placed.capacity ▸ w.heap allocated

/-! Runs. -/

/-- The program goes on with vectors that agree with the lists, or there was no memory. -/
def Program.Kept (SmallSize : Nat) (p : Program T) : Prop :=
  Returns (!p.refused) p.code fun s => SmallVectorMemory.Kept s p.lists SmallSize

theorem start_kept : Program.Kept SmallSize (start : Program T) := by
  refine ⟨fun _ => none, ⟨fun _ => none, Memory.shows_empty, ?_⟩, fun _ => ⟨rfl, nofun⟩⟩
  exact ⟨nofun, fun _ => ⟨rfl, rfl⟩, nofun, fun h => absurd rfl h, fun _ _ => rfl⟩

theorem step_kept (aligned : τ.alignof ≤ 8) {p q : Program T} {a : Bool × Operation T}
    (kept : p.Kept SmallSize) (proper : Proper τ SmallSize p a) (h : step τ SmallSize p a = some q) :
    q.Kept SmallSize := by
  obtain ⟨code, lists, refused⟩ := p
  obtain ⟨granted, op⟩ := a
  cases code with
  | error fault => cases h
  | ok s =>
    obtain ⟨r, hr, rfl⟩ := Option.map_eq_some_iff.mp h
    obtain ⟨vectors, stands, agree⟩ := kept
    unfold Program.Kept
    rw [Bool.not_not]
    exact exec_kept aligned stands agree proper hr

theorem Program.Kept.good {p : Program T} (kept : p.Kept SmallSize) : p.Good SmallSize := by
  obtain ⟨code, lists, refused⟩ := p
  cases code with
  | ok s => exact SmallVectorMemory.Kept.refines kept
  | error fault =>
    cases fault with
    | abort => exact (Bool.not_eq_eq_eq_not (a := refused) (b := false)).mp kept
    | undefined => exact kept

/-- Whatever is done with vectors, they are as the lists are under the same operations. -/
theorem small_vector_refines_list (τ : ElementType T) (SmallSize : Nat) (aligned : τ.alignof ≤ 8)
    (as : List (Bool × Operation T)) (proper : Along (step τ SmallSize) (Proper τ SmallSize) start as) :
    Always (step τ SmallSize) (Program.Good SmallSize) start as := by
  have kept : Always (step τ SmallSize) (Program.Kept SmallSize) start as :=
    always_of_along (fun _ _ _ kept proper h => step_kept aligned kept proper h) start_kept proper
  exact kept.mono fun p kept => kept.good

/-- `unsigned`, which a move leaves as it is. -/
def unsigned : ElementType Nat := ⟨4, by decide, 4, 0, id⟩

theorem unsigned_refines_list :
    Always (step unsigned 2) (Program.Good 2) start
      [(true, .construct 0 [1, 2]), (true, .directConstruct 1 0), (true, .pushBack 1 3),
        (false, .reserve 0 9)] :=
  small_vector_refines_list unsigned 2 (by decide) _ <| by
    intro p hp
    refine ⟨Or.inl (by decide), ?_⟩
    obtain rfl := Option.some.inj hp
    intro p hp
    refine ⟨⟨?_, fun _ _ _ _ => rfl⟩, ?_⟩
    · intro o ho
      obtain rfl := Option.some.inj ho
      exact Or.inl (Nat.le_refl 2)
    obtain rfl := Option.some.inj hp
    intro p hp
    refine ⟨?_, ?_⟩
    · intro v hv
      obtain rfl := Option.some.inj hv
      exact (Or.inr (by decide) : Asks unsigned 2 3)
    obtain rfl := Option.some.inj hp
    intro p hp
    refine ⟨?_, trivial⟩
    intro v hv _
    decide

/-- `std::string`, of which a move leaves nothing. -/
def string : ElementType String := ⟨32, by decide, 8, "", fun _ => ""⟩

theorem copied_by_moving :
    ¬∀ (T : Type) (τ : ElementType T) (SmallSize : Nat) (as : List (Bool × Operation T)), Always (step τ SmallSize) (Program.Good SmallSize) start as := by
  intro h
  have always := h String string 5 [(true, .construct 0 ["x"]), (true, .directConstruct 1 0)]
  obtain ⟨p, hp⟩ : ∃ p, run (step string 5) start
      [(true, .construct 0 ["x"]), (true, .directConstruct 1 0)] = some p := ⟨_, rfl⟩
  have good := always.last hp
  obtain rfl := Option.some.inj hp
  have contents := good.contents 0 ⟨.inplace 0, 1, 5⟩ ["x"] rfl rfl
  have lost : ([some ""] : List (Option String)) = [some "x"] := contents
  exact absurd lost (by decide)

end

end Anbox.Common.SmallVectorMemory
