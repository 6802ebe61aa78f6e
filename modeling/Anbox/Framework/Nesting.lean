import Mathlib.Data.List.Basic

namespace Anbox.Framework

/-- Things are opened, and closed again. -/
inductive Nesting (α : Type*) where
  | opened (x : α)
  | closed (x : α)

namespace Nesting

variable {α : Type*} [DecidableEq α] (beneath : α → α → Bool)

/-- Of what is open, with the latest first, something later than `x` stands beneath it. -/
def held (table : List α) (x : α) : Bool := (table.takeWhile (· ≠ x)).any (beneath x)

/-- What is held stays open. -/
def settle (table : List α) : Nesting α → List α
  | .opened x => x :: table
  | .closed x => if held beneath table x then table else table.erase x

/-- Nothing is closed while something stands beneath it. -/
def Unheld : List α → List (Nesting α) → Prop
  | _, [] => True
  | table, e :: es =>
    (∀ x, e = .closed x → held beneath table x = false) ∧ Unheld (settle beneath table e) es

def openings (es : List (Nesting α)) : List α :=
  es.filterMap fun
    | .opened x => some x
    | .closed _ => none

def closings (es : List (Nesting α)) : List α :=
  es.filterMap fun
    | .opened _ => none
    | .closed x => some x

/-- Everything is closed in the reverse order, with nothing beneath it, and nothing stays open. -/
structure Unwound (es : List (Nesting α)) : Prop where
  order : closings es = (openings es).reverse
  unheld : Unheld beneath [] es
  empty : es.foldl (settle beneath) [] = []

omit [DecidableEq α] in
theorem openings_append (es fs : List (Nesting α)) : openings (es ++ fs) = openings es ++ openings fs :=
  List.filterMap_append ..

omit [DecidableEq α] in
theorem closings_append (es fs : List (Nesting α)) : closings (es ++ fs) = closings es ++ closings fs :=
  List.filterMap_append ..

omit [DecidableEq α] in
@[simp] theorem openings_opened (xs : List α) : openings (xs.map .opened) = xs := by
  induction xs with
  | nil => rfl
  | cons x xs ih => exact congrArg (x :: ·) ih

omit [DecidableEq α] in
@[simp] theorem openings_closed (xs : List α) : openings (xs.map .closed) = [] := by
  induction xs with
  | nil => rfl
  | cons x xs ih => exact ih

omit [DecidableEq α] in
@[simp] theorem closings_opened (xs : List α) : closings (xs.map .opened) = [] := by
  induction xs with
  | nil => rfl
  | cons x xs ih => exact ih

omit [DecidableEq α] in
@[simp] theorem closings_closed (xs : List α) : closings (xs.map .closed) = xs := by
  induction xs with
  | nil => rfl
  | cons x xs ih => exact congrArg (x :: ·) ih

theorem unheld_append {table : List α} {es fs : List (Nesting α)} :
    Unheld beneath table (es ++ fs) ↔
      Unheld beneath table es ∧ Unheld beneath (es.foldl (settle beneath) table) fs := by
  induction es generalizing table with
  | nil => exact (true_and _).symm ▸ Iff.rfl
  | cons e es ih => rw [List.cons_append, Unheld, Unheld, ih, List.foldl_cons, and_assoc]

theorem foldl_opened (xs table : List α) :
    (xs.map .opened).foldl (settle beneath) table = xs.reverse ++ table := by
  induction xs generalizing table with
  | nil => rfl
  | cons x xs ih =>
    rw [List.map_cons, List.foldl_cons, ih, List.reverse_cons, List.append_assoc]
    rfl

theorem unheld_opened (xs table : List α) : Unheld beneath table (xs.map .opened) := by
  induction xs generalizing table with
  | nil => trivial
  | cons x xs ih => exact ⟨nofun, ih (x :: table)⟩

/-- Nothing is later than the latest. -/
theorem held_cons_self (x : α) (table : List α) : held beneath (x :: table) x = false := by
  simp [held]

theorem settle_closed (x : α) (table : List α) : settle beneath (x :: table) (.closed x) = table := by
  rw [settle, held_cons_self, if_neg Bool.false_ne_true, List.erase_cons_head]

theorem foldl_closed (xs table : List α) :
    (xs.map .closed).foldl (settle beneath) (xs ++ table) = table := by
  induction xs with
  | nil => rfl
  | cons x xs ih => rw [List.map_cons, List.foldl_cons, List.cons_append, settle_closed, ih]

theorem unheld_closed (xs table : List α) : Unheld beneath (xs ++ table) (xs.map .closed) := by
  induction xs with
  | nil => trivial
  | cons x xs ih =>
    refine ⟨?_, ?_⟩
    · intro y same
      obtain rfl := Nesting.closed.inj same
      exact held_cons_self beneath x (xs ++ table)
    · rw [List.cons_append, settle_closed]
      exact ih

/-- The reverse order is the one that works out. -/
theorem unwound_iff (opens closes : List α) :
    Unwound beneath (opens.map .opened ++ closes.map .closed) ↔ closes = opens.reverse := by
  have table : (opens.map .opened).foldl (settle beneath) [] = opens.reverse ++ [] :=
    foldl_opened beneath opens []
  have opened : openings (opens.map .opened ++ closes.map .closed) = opens := by
    rw [openings_append, openings_opened, openings_closed, List.append_nil]
  have closed : closings (opens.map .opened ++ closes.map .closed) = closes := by
    rw [closings_append, closings_opened, closings_closed, List.nil_append]
  constructor
  · intro h
    have order := h.order
    rwa [opened, closed] at order
  · intro reverse
    subst reverse
    refine ⟨by rw [opened, closed], ?_, ?_⟩
    · rw [unheld_append, table]
      exact ⟨unheld_opened beneath opens [], unheld_closed beneath opens.reverse []⟩
    · rw [List.foldl_append, table]
      exact foldl_closed beneath opens.reverse []

omit [DecidableEq α] in
/-- With two or more things the order in which they were opened is another one. -/
theorem reverse_ne {x : α} {xs : List α} (more : xs ≠ []) (other : x ∉ xs) : x :: xs ≠ (x :: xs).reverse := by
  intro same
  have first : ((x :: xs).reverse).head? = some x := same ▸ rfl
  rw [List.head?_reverse, List.getLast?_cons_of_ne_nil more] at first
  exact other (List.mem_of_getLast? first)

end Nesting

end Anbox.Framework
