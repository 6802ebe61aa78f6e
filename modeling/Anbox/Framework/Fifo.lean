import Anbox.Framework.Run

namespace Anbox.Framework

/-- The results of an operation on a queue; success is told from the failures. -/
structure Results (ρ : Type*) where
  done : ρ
  again : ρ
  closed : ρ
  again_ne : again ≠ done
  closed_ne : closed ≠ done

/-- A bounded first-in first-out queue that can be closed. -/
structure Fifo (α : Type*) where
  capacity : Nat
  items : List α
  closed : Bool

inductive Fifo.Op (α : Type*) where
  | tryPush (a : α)
  | push (a : α)
  | tryPop (into : α)
  | pop (into : α)
  | close
  | canPush
  | canPop

inductive Fifo.Reply (ρ α : Type*) where
  | pushed (r : ρ)
  | popped (r : ρ) (a : α)
  | closed
  | flag (b : Bool)

namespace Fifo

variable {α β ρ : Type*}

def Op.map (f : α → β) : Op α → Op β
  | tryPush a => tryPush (f a)
  | push a => push (f a)
  | tryPop into => tryPop (f into)
  | pop into => pop (f into)
  | close => close
  | canPush => canPush
  | canPop => canPop

def Reply.map (f : α → β) : Reply ρ α → Reply ρ β
  | pushed r => pushed r
  | popped r a => popped r (f a)
  | closed => closed
  | flag b => flag b

def empty (capacity : Nat) : Fifo α := ⟨capacity, [], false⟩

variable (R : Results ρ) (q : Fifo α)

def canPush : Bool := !q.closed && q.items.length < q.capacity

def canPop : Bool := !q.items.isEmpty

def tryPush (a : α) : ρ × Fifo α :=
  if q.closed then (R.closed, q)
  else if q.capacity ≤ q.items.length then (R.again, q)
  else (R.done, { q with items := q.items ++ [a] })

/-- Waits, that is does not return, while the queue is full and open. -/
def push (a : α) : Option (ρ × Fifo α) :=
  if q.items.length = q.capacity then
    if q.closed then some (R.closed, q) else none
  else some (q.tryPush R a)

def tryPop (into : α) : ρ × α × Fifo α :=
  match q.items with
  | [] => (if q.closed then R.closed else R.again, into, q)
  | a :: rest => (R.done, a, { q with items := rest })

/-- Waits while the queue is empty and open. -/
def pop (into : α) : Option (ρ × α × Fifo α) :=
  if q.items = [] then
    if q.closed then some (R.closed, into, q) else none
  else some (q.tryPop R into)

def close : Fifo α := { q with closed := true }

def exec : Op α → Option (Reply ρ α × Fifo α)
  | .tryPush a => some (.pushed (q.tryPush R a).1, (q.tryPush R a).2)
  | .push a => (q.push R a).map fun p => (.pushed p.1, p.2)
  | .tryPop into => some (.popped (q.tryPop R into).1 (q.tryPop R into).2.1, (q.tryPop R into).2.2)
  | .pop into => (q.pop R into).map fun p => (.popped p.1 p.2.1, p.2.2)
  | .close => some (.closed, q.close)
  | .canPush => some (.flag q.canPush, q)
  | .canPop => some (.flag q.canPop, q)

/-- What an operation brought into the queue, told by its reply. -/
def entry [DecidableEq ρ] : Op α → Reply ρ α → List α
  | .tryPush a, .pushed r | .push a, .pushed r => if r = R.done then [a] else []
  | _, _ => []

/-- What an operation took out of the queue. -/
def exit [DecidableEq ρ] : Reply ρ α → List α
  | .popped r a => if r = R.done then [a] else []
  | _ => []

def entered [DecidableEq ρ] (os : List (Op α)) (rs : List (Reply ρ α)) : List α :=
  (List.zipWith (entry R) os rs).flatten

def left [DecidableEq ρ] (rs : List (Reply ρ α)) : List α := rs.flatMap (exit R)

/-- The replies of a closed queue that holds `items`. -/
def drained : List α → List (Op α) → List (Reply ρ α)
  | _, [] => []
  | items, .tryPush _ :: os | items, .push _ :: os => .pushed R.closed :: drained items os
  | [], .tryPop into :: os | [], .pop into :: os => .popped R.closed into :: drained [] os
  | a :: items, .tryPop _ :: os | a :: items, .pop _ :: os => .popped R.done a :: drained items os
  | items, .close :: os => .closed :: drained items os
  | items, .canPush :: os => .flag false :: drained items os
  | items, .canPop :: os => .flag (!items.isEmpty) :: drained items os

variable {R} {q}

theorem tryPush_items (a : α) :
    (q.tryPush R a).1 = R.done ∧ (q.tryPush R a).2.items = q.items ++ [a] ∨
      (q.tryPush R a).1 ≠ R.done ∧ (q.tryPush R a).2 = q := by
  unfold tryPush
  split_ifs
  · exact Or.inr ⟨R.closed_ne, rfl⟩
  · exact Or.inr ⟨R.again_ne, rfl⟩
  · exact Or.inl ⟨rfl, rfl⟩

theorem tryPop_items (into : α) :
    (q.tryPop R into).1 = R.done ∧
        q.items = (q.tryPop R into).2.1 :: (q.tryPop R into).2.2.items ∨
      (q.tryPop R into).1 ≠ R.done ∧ (q.tryPop R into).2.2 = q := by
  unfold tryPop
  split
  · split_ifs
    · exact Or.inr ⟨R.closed_ne, rfl⟩
    · exact Or.inr ⟨R.again_ne, rfl⟩
  · rename_i h
    exact Or.inl ⟨rfl, h⟩

/-- A push that returns is the one that tries, or finds the queue full and closed. -/
theorem push_cases {a : α} {p : ρ × Fifo α} (h : q.push R a = some p) :
    p = q.tryPush R a ∨ p = (R.closed, q) := by
  unfold push at h
  split_ifs at h
  · exact Or.inr (Option.some.inj h).symm
  · exact Or.inl (Option.some.inj h).symm

theorem pop_cases {into : α} {p : ρ × α × Fifo α} (h : q.pop R into = some p) :
    p = q.tryPop R into ∨ p = (R.closed, into, q) := by
  unfold pop at h
  split_ifs at h
  · exact Or.inr (Option.some.inj h).symm
  · exact Or.inl (Option.some.inj h).symm

theorem entry_of_pushed [DecidableEq ρ] {a : α} {p : ρ × Fifo α}
    (h : p.1 = R.done ∧ p.2.items = q.items ++ [a] ∨ p.1 ≠ R.done ∧ p.2 = q) :
    q.items ++ (if p.1 = R.done then [a] else []) = p.2.items := by
  cases h with
  | inl h => rw [if_pos h.1, h.2]
  | inr h => rw [if_neg h.1, h.2, List.append_nil]

theorem exit_of_popped [DecidableEq ρ] {p : ρ × α × Fifo α}
    (h : p.1 = R.done ∧ q.items = p.2.1 :: p.2.2.items ∨ p.1 ≠ R.done ∧ p.2.2 = q) :
    q.items = (if p.1 = R.done then [p.2.1] else []) ++ p.2.2.items := by
  cases h with
  | inl h => rw [if_pos h.1, h.2, List.singleton_append]
  | inr h => rw [if_neg h.1, h.2, List.nil_append]

theorem exec_items [DecidableEq ρ] {o : Op α} {r : Reply ρ α} {t : Fifo α}
    (h : exec R q o = some (r, t)) : q.items ++ entry R o r = exit R r ++ t.items := by
  cases o with
  | tryPush a =>
    obtain ⟨rfl, rfl⟩ := Prod.mk.inj (Option.some.inj h)
    exact entry_of_pushed (tryPush_items a)
  | push a =>
    obtain ⟨p, hp, heq⟩ := Option.map_eq_some_iff.mp h
    obtain ⟨rfl, rfl⟩ := Prod.mk.inj heq
    apply entry_of_pushed
    cases push_cases hp with
    | inl hp => exact hp ▸ tryPush_items a
    | inr hp => exact Or.inr (hp ▸ ⟨R.closed_ne, rfl⟩)
  | tryPop into =>
    obtain ⟨rfl, rfl⟩ := Prod.mk.inj (Option.some.inj h)
    exact (List.append_nil _).trans (exit_of_popped (tryPop_items into))
  | pop into =>
    obtain ⟨p, hp, heq⟩ := Option.map_eq_some_iff.mp h
    obtain ⟨rfl, rfl⟩ := Prod.mk.inj heq
    refine (List.append_nil _).trans (exit_of_popped ?_)
    cases pop_cases hp with
    | inl hp => exact hp ▸ tryPop_items into
    | inr hp => exact Or.inr (hp ▸ ⟨R.closed_ne, rfl⟩)
  | close | canPush | canPop =>
    obtain ⟨rfl, rfl⟩ := Prod.mk.inj (Option.some.inj h)
    exact List.append_nil _

/-- What came in is what went out, followed by what is still there. -/
theorem trace_items [DecidableEq ρ] {os : List (Op α)} {rs : List (Reply ρ α)} {t : Fifo α}
    (h : trace (exec R) q os = some (rs, t)) : q.items ++ entered R os rs = left R rs ++ t.items := by
  induction os generalizing q rs with
  | nil =>
    obtain ⟨rfl, rfl⟩ := Prod.mk.inj (Option.some.inj h)
    exact List.append_nil _
  | cons o os ih =>
    obtain ⟨r, u, rest, hu, ht, rfl⟩ := trace_cons h
    have step := exec_items hu
    have later := ih ht
    calc
      q.items ++ entered R (o :: os) (r :: rest) = q.items ++ entry R o r ++ entered R os rest := by
        simp [entered]
      _ = exit R r ++ (u.items ++ entered R os rest) := by rw [step, List.append_assoc]
      _ = exit R r ++ (left R rest ++ t.items) := by rw [later]
      _ = left R (r :: rest) ++ t.items := by simp [left]

/-- What a closed queue does next. -/
theorem exec_closed (hc : q.closed = true) (o : Op α) (os : List (Op α)) :
    ∃ r t, exec R q o = some (r, t) ∧ t.closed = true ∧
      drained R q.items (o :: os) = r :: drained R t.items os := by
  obtain ⟨capacity, items, closed⟩ := q
  obtain rfl : closed = true := hc
  cases o with
  | tryPush a => exact ⟨.pushed R.closed, _, rfl, rfl, rfl⟩
  | push a =>
    by_cases full : items.length = capacity
    · refine ⟨.pushed R.closed, ⟨capacity, items, true⟩, ?_, rfl, rfl⟩
      simp [exec, push, full]
    · refine ⟨.pushed R.closed, ⟨capacity, items, true⟩, ?_, rfl, rfl⟩
      simp [exec, push, tryPush, full]
  | tryPop into | pop into =>
    cases items with
    | nil => exact ⟨.popped R.closed into, ⟨capacity, [], true⟩, rfl, rfl, rfl⟩
    | cons a items => exact ⟨.popped R.done a, ⟨capacity, items, true⟩, rfl, rfl, rfl⟩
  | close => exact ⟨.closed, ⟨capacity, items, true⟩, rfl, rfl, rfl⟩
  | canPush => exact ⟨.flag false, ⟨capacity, items, true⟩, rfl, rfl, rfl⟩
  | canPop => exact ⟨.flag (!items.isEmpty), ⟨capacity, items, true⟩, rfl, rfl, rfl⟩

/-- A closed queue takes nothing in, gives out what it holds in order, and then fails. -/
theorem trace_closed (hc : q.closed = true) (os : List (Op α)) :
    (trace (exec R) q os).map Prod.fst = some (drained R q.items os) := by
  induction os generalizing q with
  | nil => rfl
  | cons o os ih =>
    obtain ⟨r, t, hr, ht, first⟩ := exec_closed (R := R) hc o os
    obtain ⟨p, hp, heq⟩ := Option.map_eq_some_iff.mp (ih ht)
    rw [first, ← heq]
    simp [trace, hr, hp]

end Fifo

end Anbox.Framework
