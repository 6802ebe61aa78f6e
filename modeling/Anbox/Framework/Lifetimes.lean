import Mathlib.Data.List.Basic
import Mathlib.Logic.Function.Basic

namespace Anbox.Framework

section

variable {ι γ : Type*} [DecidableEq ι] {f : ι → Option γ} {x y : ι} {a b : γ}

theorem update_some_eq_some (h : Function.update f x (some a) y = some b) :
    y = x ∧ b = a ∨ y ≠ x ∧ f y = some b := by
  by_cases same : y = x
  · rw [same, Function.update_self] at h
    exact Or.inl ⟨same, (Option.some.inj h).symm⟩
  · rw [Function.update_of_ne same] at h
    exact Or.inr ⟨same, h⟩

theorem update_some_eq_none (h : Function.update f x (some a) y = none) : y ≠ x ∧ f y = none := by
  have other : y ≠ x := by
    intro same
    rw [same, Function.update_self] at h
    cases h
  rw [Function.update_of_ne other] at h
  exact ⟨other, h⟩

theorem update_none_eq_some (h : Function.update f x none y = some b) : y ≠ x ∧ f y = some b := by
  have other : y ≠ x := by
    intro same
    rw [same, Function.update_self] at h
    cases h
  rw [Function.update_of_ne other] at h
  exact ⟨other, h⟩

end

/-- Elements in the cells of blocks. Each has got a number when it was constructed, and for each number
it is counted how often the element was destroyed. -/
structure Memory (β α : Type*) where
  size : β → Option Nat
  cell : β × Nat → Option (Nat × α)
  next : Nat
  destroyed : Nat → Nat
  inside : ∀ {p}, cell p ≠ none → ∃ n, size p.1 = some n ∧ p.2 < n
  alive : ∀ {p id v}, cell p = some (id, v) → id < next ∧ destroyed id = 0
  unborn : ∀ {id}, next ≤ id → destroyed id = 0
  single : ∀ {p p' id v v'}, cell p = some (id, v) → cell p' = some (id, v') → p = p'
  once : ∀ {id}, id < next → destroyed id = 1 ∨ ∃ p v, cell p = some (id, v)

variable {β α : Type*} [DecidableEq β]

namespace Memory

def empty : Memory β α where
  size := fun _ => none
  cell := fun _ => none
  next := 0
  destroyed := fun _ => 0
  inside := fun h => absurd rfl h
  alive := nofun
  unborn := fun _ => rfl
  single := nofun
  once := nofun

variable (m : Memory β α)

/-! What can be done, as long as nothing goes wrong. -/

/-- A block of raw cells under a name that is free. -/
def allocate (b : β) (n : Nat) : Option (Memory β α) :=
  if free : m.size b = none then
    some { m with
      size := Function.update m.size b (some n)
      inside := by
        intro p there
        obtain ⟨k, hk, inside⟩ := m.inside there
        have other : p.1 ≠ b := by
          intro same
          rw [same, free] at hk
          cases hk
        exact ⟨k, by rw [Function.update_of_ne other, hk], inside⟩ }
  else none

/-- A block is given back when nothing is in it any more. -/
def release (b : β) : Option (Memory β α) :=
  match block : m.size b with
  | none => none
  | some n =>
    if raw : ∀ i < n, m.cell (b, i) = none then
      some { m with
        size := Function.update m.size b none
        inside := by
          intro p there
          obtain ⟨k, hk, inside⟩ := m.inside there
          have other : p.1 ≠ b := by
            intro same
            obtain ⟨b', i⟩ := p
            subst same
            obtain rfl := Option.some.inj (hk.symm.trans block)
            exact there (raw i inside)
          exact ⟨k, by rw [Function.update_of_ne other, hk], inside⟩ }
    else none

/-- A new element in a raw cell. -/
def construct (p : β × Nat) (v : α) : Option (Memory β α) :=
  match block : m.size p.1 with
  | none => none
  | some n =>
    if raw : p.2 < n ∧ m.cell p = none then
      some { m with
        cell := Function.update m.cell p (some (m.next, v))
        next := m.next + 1
        inside := by
          intro q there
          by_cases same : q = p
          · subst same
            exact ⟨n, block, raw.1⟩
          · rw [Function.update_of_ne same] at there
            exact m.inside there
        alive := by
          intro q id w hq
          obtain ⟨-, new⟩ | ⟨-, old⟩ := update_some_eq_some hq
          · obtain ⟨rfl, -⟩ := Prod.mk.inj new
            exact ⟨Nat.lt_succ_self _, m.unborn (Nat.le_refl _)⟩
          · exact ⟨Nat.lt_succ_of_lt (m.alive old).1, (m.alive old).2⟩
        unborn := fun h => m.unborn (Nat.le_of_succ_le h)
        single := by
          intro q q' id w w' hq hq'
          obtain ⟨first, new⟩ | ⟨-, old⟩ := update_some_eq_some hq
          · obtain ⟨second, -⟩ | ⟨-, old'⟩ := update_some_eq_some hq'
            · rw [first, second]
            · obtain ⟨rfl, -⟩ := Prod.mk.inj new
              exact absurd (m.alive old').1 (Nat.lt_irrefl _)
          · obtain ⟨-, new'⟩ | ⟨-, old'⟩ := update_some_eq_some hq'
            · obtain ⟨rfl, -⟩ := Prod.mk.inj new'
              exact absurd (m.alive old).1 (Nat.lt_irrefl _)
            · exact m.single old old'
        once := by
          intro id h
          obtain old | rfl := Nat.lt_succ_iff_lt_or_eq.mp h
          · obtain gone | ⟨q, w, hq⟩ := m.once old
            · exact Or.inl gone
            · have other : q ≠ p := by
                intro same
                rw [same, raw.2] at hq
                cases hq
              exact Or.inr ⟨q, w, by rw [Function.update_of_ne other, hq]⟩
          · exact Or.inr ⟨p, v, Function.update_self p _ _⟩ }
    else none

/-- The element of a cell is destroyed. -/
def destroy (p : β × Nat) : Option (Memory β α) :=
  match there : m.cell p with
  | none => none
  | some (id, v) =>
    some { m with
      cell := Function.update m.cell p none
      destroyed := Function.update m.destroyed id (m.destroyed id + 1)
      inside := by
        intro q hq
        by_cases same : q = p
        · rw [same, Function.update_self] at hq
          exact absurd rfl hq
        · rw [Function.update_of_ne same] at hq
          exact m.inside hq
      alive := by
        intro q id' w hq
        obtain ⟨away, old⟩ := update_none_eq_some hq
        have other : id' ≠ id := by
          intro one
          subst one
          exact away (m.single old there)
        rw [Function.update_of_ne other]
        exact m.alive old
      unborn := by
        intro id' h
        have other : id' ≠ id := by
          intro one
          subst one
          exact absurd (m.alive there).1 (Nat.not_lt.mpr h)
        rw [Function.update_of_ne other]
        exact m.unborn h
      single := by
        intro q q' id' w w' hq hq'
        exact m.single (update_none_eq_some hq).2 (update_none_eq_some hq').2
      once := by
        intro id' h
        by_cases same : id' = id
        · rw [same, Function.update_self, (m.alive there).2]
          exact Or.inl rfl
        · rw [Function.update_of_ne same]
          obtain gone | ⟨q, w, hq⟩ := m.once h
          · exact Or.inl gone
          · have other : q ≠ p := by
              intro one
              rw [one, there] at hq
              exact same (Prod.mk.inj (Option.some.inj hq)).1.symm
            exact Or.inr ⟨q, w, by rw [Function.update_of_ne other, hq]⟩ }

/-- The element of a cell gets another value. -/
def assign (p : β × Nat) (v : α) : Option (Memory β α) :=
  match there : m.cell p with
  | none => none
  | some (id, w) =>
    have numbers : ∀ {q id'}, (∃ w', Function.update m.cell p (some (id, v)) q = some (id', w')) ↔
        ∃ w', m.cell q = some (id', w') := by
      intro q id'
      by_cases same : q = p
      · rw [same, Function.update_self, there]
        simp
      · rw [Function.update_of_ne same]
    some { m with
      cell := Function.update m.cell p (some (id, v))
      inside := by
        intro q hq
        by_cases same : q = p
        · rw [same]
          exact m.inside (there ▸ Option.some_ne_none _)
        · rw [Function.update_of_ne same] at hq
          exact m.inside hq
      alive := by
        intro q id' w' hq
        obtain ⟨u, hu⟩ := numbers.mp ⟨w', hq⟩
        exact m.alive hu
      single := by
        intro q q' id' w' w'' hq hq'
        obtain ⟨u, hu⟩ := numbers.mp ⟨w', hq⟩
        obtain ⟨u', hu'⟩ := numbers.mp ⟨w'', hq'⟩
        exact m.single hu hu'
      once := by
        intro id' h
        obtain gone | ⟨q, w', hq⟩ := m.once h
        · exact Or.inl gone
        · exact Or.inr ⟨q, numbers.mpr ⟨w', hq⟩⟩ }

/-- The value that the element of a cell has. -/
def read (p : β × Nat) : Option α := (m.cell p).map Prod.snd

omit [DecidableEq β] in
/-- An element is in one cell and was never destroyed, or it is in none and was destroyed once. -/
theorem alive_or_destroyed {id : Nat} (h : id < m.next) :
    (m.destroyed id = 0 ∧ ∃! p, ∃ v, m.cell p = some (id, v)) ∨
      (m.destroyed id = 1 ∧ ∀ p v, m.cell p ≠ some (id, v)) := by
  obtain gone | ⟨p, v, hp⟩ := m.once h
  · refine Or.inr ⟨gone, fun p v hp => ?_⟩
    rw [(m.alive hp).2] at gone
    cases gone
  · refine Or.inl ⟨(m.alive hp).2, p, ⟨v, hp⟩, ?_⟩
    intro q hq
    obtain ⟨w, hw⟩ := hq
    exact m.single hw hp

/-! Cells one after the other. -/

def constructAll (b : β) : Nat → List α → Memory β α → Option (Memory β α)
  | _, [], m => some m
  | i, v :: vs, m => (m.construct (b, i) v).bind (constructAll b (i + 1) vs)

def destroyAll (b : β) : Nat → Nat → Memory β α → Option (Memory β α)
  | _, 0, m => some m
  | i, count + 1, m => (m.destroy (b, i)).bind (destroyAll b (i + 1) count)

/-- New elements from old ones, each of which is left as `left` has it. -/
def transfer (left : α → α) (b' : β) : Nat → Nat → β → Nat → Memory β α → Option (Memory β α)
  | _, 0, _, _, m => some m
  | i, count + 1, b, j, m =>
    (m.read (b', i)).bind fun v =>
      (m.construct (b, j) v).bind fun m =>
        (m.assign (b', i) (left v)).bind (transfer left b' (i + 1) count b (j + 1))

/-! What the operations change. -/

section

variable {m} {b : β} {p : β × Nat} {n : Nat} {v : α}

omit [DecidableEq β] in
theorem read_eq_none : m.read p = none ↔ m.cell p = none := Option.map_eq_none_iff

theorem allocate_eq (free : m.size b = none) (n : Nat) :
    ∃ m', m.allocate b n = some m' ∧ m'.size = Function.update m.size b (some n) ∧ m'.read = m.read :=
  ⟨_, dif_pos free, rfl, rfl⟩

theorem release_eq (block : m.size b = some n) (raw : ∀ i, m.read (b, i) = none) :
    ∃ m', m.release b = some m' ∧ m'.size = Function.update m.size b none ∧ m'.read = m.read := by
  unfold release
  split
  · rename_i none
    rw [block] at none
    cases none
  · rw [dif_pos fun i _ => read_eq_none.mp (raw i)]
    exact ⟨_, rfl, rfl, rfl⟩

theorem construct_eq (block : m.size p.1 = some n) (room : p.2 < n) (raw : m.read p = none) (v : α) :
    ∃ m', m.construct p v = some m' ∧ m'.size = m.size ∧ m'.read = Function.update m.read p (some v) := by
  unfold construct
  split
  · rename_i none
    rw [block] at none
    cases none
  · rename_i k hk
    obtain rfl := Option.some.inj (block.symm.trans hk)
    rw [dif_pos ⟨room, read_eq_none.mp raw⟩]
    refine ⟨_, rfl, rfl, ?_⟩
    exact (Function.comp_update (Option.map Prod.snd) m.cell p _)

theorem destroy_eq (there : m.read p = some v) :
    ∃ m', m.destroy p = some m' ∧ m'.size = m.size ∧ m'.read = Function.update m.read p none := by
  unfold destroy
  split
  · rename_i none
    rw [read, none] at there
    cases there
  · exact ⟨_, rfl, rfl, Function.comp_update (Option.map Prod.snd) m.cell p _⟩

theorem assign_eq (there : m.read p = some v) (w : α) :
    ∃ m', m.assign p w = some m' ∧ m'.size = m.size ∧ m'.read = Function.update m.read p (some w) := by
  unfold assign
  split
  · rename_i none
    rw [read, none] at there
    cases there
  · exact ⟨_, rfl, rfl, Function.comp_update (Option.map Prod.snd) m.cell p _⟩

theorem destroyAll_eq {i count : Nat} (there : ∀ k < count, m.read (b, i + k) ≠ none) :
    ∃ m', destroyAll b i count m = some m' ∧ m'.size = m.size ∧
      ∀ p, m'.read p = if p.1 = b ∧ i ≤ p.2 ∧ p.2 < i + count then none else m.read p := by
  induction count generalizing m i with
  | zero =>
    refine ⟨m, rfl, rfl, fun p => ?_⟩
    rw [if_neg fun h => by omega]
  | succ count ih =>
    obtain ⟨v, hv⟩ := Option.ne_none_iff_exists'.mp (there 0 (Nat.succ_pos count))
    obtain ⟨m₁, first, size₁, read₁⟩ := destroy_eq hv
    have later : ∀ k < count, m₁.read (b, i + 1 + k) ≠ none := by
      intro k hk
      have other : (b, i + 1 + k) ≠ (b, i + 0) := fun same => by
        have := (Prod.mk.inj same).2
        omega
      rw [read₁, Function.update_of_ne other]
      have := there (k + 1) (Nat.succ_lt_succ hk)
      rwa [show i + 1 + k = i + (k + 1) by omega]
    obtain ⟨m', rest, size, values⟩ := ih later
    refine ⟨m', ?_, size.trans size₁, fun p => ?_⟩
    · rw [destroyAll]
      exact (congrArg (Option.bind · _) first).trans rest
    · rw [values p, read₁]
      by_cases same : p = (b, i + 0)
      · subst same
        rw [if_neg fun h => absurd h.2.1 (Nat.not_succ_le_self i), Function.update_self,
          if_pos ⟨rfl, Nat.le_refl i, Nat.lt_add_of_pos_right (Nat.succ_pos count)⟩]
      · rw [Function.update_of_ne same]
        have ne : p.1 = b → p.2 ≠ i := fun hb hi => same (Prod.ext hb hi)
        by_cases inside : p.1 = b ∧ i + 1 ≤ p.2 ∧ p.2 < i + 1 + count
        · rw [if_pos inside, if_pos ⟨inside.1, by omega, by omega⟩]
        · rw [if_neg inside, if_neg]
          intro h
          have := ne h.1
          exact inside ⟨h.1, by omega, by omega⟩

end

/-! The blocks as lists: so many cells, and the elements in the first of them. -/

/-- What stands in memory. -/
structure Shows (m : Memory β α) (blocks : β → Option (Nat × List α)) : Prop where
  size : ∀ b, m.size b = (blocks b).map Prod.fst
  value : ∀ p, m.read p = (blocks p.1).bind fun block => block.2[p.2]?

omit [DecidableEq β] in
theorem shows_empty : (empty : Memory β α).Shows fun _ => none := ⟨fun _ => rfl, fun _ => rfl⟩

namespace Shows

variable {m} {blocks : β → Option (Nat × List α)} {b b' : β} {n n' : Nat} {us vs : List α} {v w : α}

omit [DecidableEq β] in
theorem size_of (h : m.Shows blocks) (hb : blocks b = some (n, vs)) : m.size b = some n := by
  rw [h.size, hb]
  rfl

omit [DecidableEq β] in
theorem value_of (h : m.Shows blocks) (hb : blocks b = some (n, vs)) (i : Nat) : m.read (b, i) = vs[i]? := by
  rw [h.value, hb]
  rfl

/-- One block is replaced. -/
theorem update (h : m.Shows blocks) {m' : Memory β α} {block : Option (Nat × List α)}
    (size : m'.size = Function.update m.size b (block.map Prod.fst))
    (here : ∀ i, m'.read (b, i) = block.bind fun block => block.2[i]?)
    (off : ∀ p, p.1 ≠ b → m'.read p = m.read p) : m'.Shows (Function.update blocks b block) where
  size := by
    intro b'
    rw [size]
    by_cases same : b' = b
    · rw [same, Function.update_self, Function.update_self]
    · rw [Function.update_of_ne same, Function.update_of_ne same, h.size]
  value := by
    intro p
    by_cases same : p.1 = b
    · rw [same, Function.update_self]
      obtain ⟨b', i⟩ := p
      subst same
      exact here i
    · rw [Function.update_of_ne same, off p same, h.value]

theorem allocate (h : m.Shows blocks) (hb : blocks b = none) (n : Nat) :
    ∃ m', m.allocate b n = some m' ∧ m'.Shows (Function.update blocks b (some (n, []))) := by
  have free : m.size b = none := by
    rw [h.size, hb]
    rfl
  obtain ⟨m', hm', size, read⟩ := allocate_eq free n
  refine ⟨m', hm', h.update size ?_ fun p _ => congrFun read p⟩
  intro i
  rw [read, h.value, hb]
  rfl

theorem release (h : m.Shows blocks) (hb : blocks b = some (n, [])) :
    ∃ m', m.release b = some m' ∧ m'.Shows (Function.update blocks b none) := by
  obtain ⟨m', hm', size, read⟩ := release_eq (h.size_of hb) fun i => h.value_of hb i
  refine ⟨m', hm', h.update size ?_ fun p _ => congrFun read p⟩
  intro i
  rw [read]
  exact h.value_of hb i

/-- The elements of one block change, and the cells stay. -/
theorem refill (h : m.Shows blocks) (hb : blocks b = some (n, us)) {m' : Memory β α} (size : m'.size = m.size)
    (here : ∀ i, m'.read (b, i) = vs[i]?) (off : ∀ p, p.1 ≠ b → m'.read p = m.read p) :
    m'.Shows (Function.update blocks b (some (n, vs))) := by
  refine h.update ?_ here off
  rw [size, Option.map_some, ← h.size_of hb, Function.update_eq_self]

theorem construct (h : m.Shows blocks) (hb : blocks b = some (n, vs)) (room : vs.length < n) (v : α) :
    ∃ m', m.construct (b, vs.length) v = some m' ∧
      m'.Shows (Function.update blocks b (some (n, vs ++ [v]))) := by
  have raw : m.read (b, vs.length) = none := by
    rw [h.value_of hb, List.getElem?_eq_none (Nat.le_refl _)]
  obtain ⟨m', hm', size, read⟩ := construct_eq (p := (b, vs.length)) (h.size_of hb) room raw v
  refine ⟨m', hm', h.refill hb size ?_ ?_⟩
  · intro i
    rw [read, List.getElem?_append]
    by_cases last : i = vs.length
    · rw [last, Function.update_self, if_neg (Nat.lt_irrefl _), Nat.sub_self]
      rfl
    · rw [Function.update_of_ne fun same => last (Prod.mk.inj same).2, h.value_of hb]
      split_ifs with inside
      · rfl
      · rw [List.getElem?_eq_none (Nat.le_of_not_lt inside), List.getElem?_eq_none]
        rw [List.length_singleton]
        omega
  · intro p other
    rw [read, Function.update_of_ne fun same => other (congrArg Prod.fst same)]

theorem assign (h : m.Shows blocks) (hb : blocks b = some (n, us ++ v :: vs)) (w : α) :
    ∃ m', m.assign (b, us.length) w = some m' ∧
      m'.Shows (Function.update blocks b (some (n, us ++ w :: vs))) := by
  have there : m.read (b, us.length) = some v := by
    rw [h.value_of hb, List.getElem?_append_right (Nat.le_refl _), Nat.sub_self]
    rfl
  obtain ⟨m', hm', size, read⟩ := assign_eq there w
  refine ⟨m', hm', h.refill hb size ?_ ?_⟩
  · intro i
    rw [read]
    by_cases here : i = us.length
    · rw [here, Function.update_self, List.getElem?_append_right (Nat.le_refl _), Nat.sub_self]
      rfl
    · rw [Function.update_of_ne fun same => here (Prod.mk.inj same).2, h.value_of hb,
        List.getElem?_append, List.getElem?_append]
      split_ifs with front
      · rfl
      · obtain ⟨k, hk⟩ : ∃ k, i - us.length = k + 1 := ⟨i - us.length - 1, by omega⟩
        rw [hk]
        rfl
  · intro p other
    rw [read, Function.update_of_ne fun same => other (congrArg Prod.fst same)]

/-! Ranges. -/

theorem constructAll (h : m.Shows blocks) (hb : blocks b = some (n, us)) (room : us.length + vs.length ≤ n) :
    ∃ m', Memory.constructAll b us.length vs m = some m' ∧
      m'.Shows (Function.update blocks b (some (n, us ++ vs))) := by
  induction vs generalizing m blocks us with
  | nil =>
    refine ⟨m, rfl, ?_⟩
    rwa [List.append_nil, ← hb, Function.update_eq_self]
  | cons v vs ih =>
    rw [List.length_cons] at room
    obtain ⟨m₁, first, h₁⟩ := h.construct hb (by omega) v
    have room₁ : (us ++ [v]).length + vs.length ≤ n := by
      rw [List.length_append, List.length_singleton]
      omega
    obtain ⟨m', rest, h'⟩ := ih h₁ (Function.update_self b _ _) room₁
    rw [List.length_append, List.length_singleton] at rest
    rw [Function.update_idem, List.append_assoc] at h'
    exact ⟨m', by rw [Memory.constructAll, first, Option.bind_some, rest], h'⟩

/-- The elements behind the first `k` are destroyed. -/
theorem destroyAll (h : m.Shows blocks) (hb : blocks b = some (n, vs)) {k : Nat} (hk : k ≤ vs.length) :
    ∃ m', Memory.destroyAll b k (vs.length - k) m = some m' ∧
      m'.Shows (Function.update blocks b (some (n, vs.take k))) := by
  have there : ∀ i < vs.length - k, m.read (b, k + i) ≠ none := by
    intro i hi
    rw [h.value_of hb, ne_eq, List.getElem?_eq_none_iff]
    omega
  obtain ⟨m', hm', size, values⟩ := destroyAll_eq there
  refine ⟨m', hm', h.refill hb size ?_ ?_⟩
  · intro i
    rw [values, List.getElem?_take, h.value_of hb]
    by_cases front : i < k
    · rw [if_neg fun h => absurd h.2.1 (Nat.not_le.mpr front), if_pos front]
    · rw [if_neg front]
      split_ifs with inside
      · rfl
      · refine List.getElem?_eq_none (Nat.le_of_not_lt fun lt => inside ⟨rfl, Nat.le_of_not_lt front, ?_⟩)
        change i < k + (vs.length - k)
        omega
  · intro p other
    rw [values, if_neg fun same => other same.1]

/-- The elements of a block go to the end of another. -/
theorem transfer (left : α → α) (h : m.Shows blocks) {done : List α} (hb : blocks b = some (n, us))
    (hb' : blocks b' = some (n', done ++ vs)) (other : b ≠ b') (room : us.length + vs.length ≤ n) :
    ∃ m', Memory.transfer left b' done.length vs.length b us.length m = some m' ∧
      m'.Shows (Function.update (Function.update blocks b (some (n, us ++ vs))) b'
        (some (n', done ++ vs.map left))) := by
  induction vs generalizing m blocks us done with
  | nil =>
    refine ⟨m, rfl, ?_⟩
    rwa [List.map_nil, ← hb', List.append_nil, ← hb, Function.update_eq_self, Function.update_eq_self]
  | cons v vs ih =>
    rw [List.length_cons] at room
    have value : m.read (b', done.length) = some v := by
      rw [h.value_of hb', List.getElem?_append_right (Nat.le_refl _), Nat.sub_self]
      rfl
    obtain ⟨m₁, first, h₁⟩ := h.construct hb (by omega) v
    have source : Function.update blocks b (some (n, us ++ [v])) b' = some (n', done ++ v :: vs) := by
      rw [Function.update_of_ne other.symm, hb']
    obtain ⟨m₂, second, h₂⟩ := h₁.assign source (left v)
    have room₂ : (us ++ [v]).length + vs.length ≤ n := by
      rw [List.length_append, List.length_singleton]
      omega
    have target₂ : Function.update (Function.update blocks b (some (n, us ++ [v]))) b'
        (some (n', done ++ left v :: vs)) b = some (n, us ++ [v]) := by
      rw [Function.update_of_ne other, Function.update_self]
    have source₂ : Function.update (Function.update blocks b (some (n, us ++ [v]))) b'
        (some (n', done ++ left v :: vs)) b' = some (n', (done ++ [left v]) ++ vs) := by
      rw [Function.update_self, List.append_assoc]
      rfl
    obtain ⟨m', rest, h'⟩ := ih h₂ target₂ source₂ room₂
    rw [List.length_append, List.length_append, List.length_singleton, List.length_singleton] at rest
    refine ⟨m', ?_, ?_⟩
    · rw [List.length_cons, Memory.transfer, value, Option.bind_some, first, Option.bind_some, second,
        Option.bind_some, rest]
    · rw [Function.update_comm other.symm, Function.update_idem, Function.update_idem, List.append_assoc,
        List.append_assoc] at h'
      exact h'

end Shows

end Memory

end Anbox.Framework
