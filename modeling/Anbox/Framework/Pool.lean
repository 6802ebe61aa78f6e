import Mathlib.Algebra.GroupWithZero.Nat
import Mathlib.Data.List.Nodup

namespace Anbox.Framework

/-- Entries in the order they were added, each under a key that no other entry ever had. -/
structure Pool (β : Type*) where
  entries : List (Nat × β)
  next : Nat
  below : ∀ e ∈ entries, e.1 < next
  nodup : (entries.map Prod.fst).Nodup

namespace Pool

variable {β γ : Type*}

def empty : Pool β where
  entries := []
  next := 0
  below := by simp
  nodup := List.nodup_nil

def size (P : Pool β) : Nat := P.entries.length

def count (P : Pool β) (p : β → Bool) : Nat := P.entries.countP fun e => p e.2

/-- The key of the first entry that `p` accepts. -/
def find (P : Pool β) (p : β → Bool) : Option Nat :=
  (P.entries.find? fun e => p e.2).map Prod.fst

def lookup (P : Pool β) (i : Nat) : Option β :=
  (P.entries.find? fun e => e.1 == i).map Prod.snd

def selected (P : Pool β) (p : β → Bool) : List β :=
  (P.entries.filter fun e => p e.2).map Prod.snd

def push (P : Pool β) (b : β) : Pool β where
  entries := P.entries ++ [(P.next, b)]
  next := P.next + 1
  below := by
    intro e he
    cases List.mem_append.mp he with
    | inl he => exact Nat.lt_succ_of_lt (P.below e he)
    | inr he => exact List.mem_singleton.mp he ▸ Nat.lt_succ_self P.next
  nodup := by
    rw [List.map_append, List.map_singleton]
    refine P.nodup.append (List.nodup_singleton _) ?_
    intro i hi hn
    obtain ⟨e, he, rfl⟩ := List.mem_map.mp hi
    exact Nat.ne_of_lt (P.below e he) (List.mem_singleton.mp hn)

def modify (P : Pool β) (i : Nat) (f : β → β) : Pool β where
  entries := P.entries.map fun e => if e.1 = i then (e.1, f e.2) else e
  next := P.next
  below := by
    intro e he
    obtain ⟨d, hd, rfl⟩ := List.mem_map.mp he
    split_ifs <;> exact P.below d hd
  nodup := by
    rw [List.map_map]
    convert P.nodup using 2
    funext e
    simp only [Function.comp]
    split_ifs <;> rfl

def keep (P : Pool β) (p : β → Bool) : Pool β where
  entries := P.entries.filter fun e => p e.2
  next := P.next
  below := fun e he => P.below e (List.mem_of_mem_filter he)
  nodup := P.nodup.sublist (List.filter_sublist.map Prod.fst)

def erase (P : Pool β) (i : Nat) : Pool β where
  entries := P.entries.filter fun e => e.1 ≠ i
  next := P.next
  below := fun e he => P.below e (List.mem_of_mem_filter he)
  nodup := P.nodup.sublist (List.filter_sublist.map Prod.fst)

/-- The sum over all entries. -/
def total (P : Pool β) (g : β → Nat) : Nat := (P.entries.map fun e => g e.2).sum

variable {P : Pool β} {p q : β → Bool} {i j : Nat} {b : β}

theorem lookup_eq_some : P.lookup i = some b ↔ (i, b) ∈ P.entries := by
  constructor
  · intro h
    obtain ⟨e, he, rfl⟩ := Option.map_eq_some_iff.mp h
    have key : e.1 = i := by simpa using List.find?_some he
    exact key ▸ List.mem_of_find?_eq_some he
  · intro h
    cases find : P.entries.find? fun e => e.1 == i with
    | none => simpa using List.find?_eq_none.mp find (i, b) h
    | some e =>
      have key : e.1 = i := by simpa using List.find?_some find
      have same := List.inj_on_of_nodup_map P.nodup (List.mem_of_find?_eq_some find) h key
      rw [lookup, find, same]
      rfl

theorem lookup_lt (h : P.lookup i = some b) : i < P.next := P.below _ (lookup_eq_some.mp h)

@[simp] theorem lookup_empty (i : Nat) : (empty : Pool β).lookup i = none := rfl

theorem find_some (h : P.find p = some i) : ∃ b, P.lookup i = some b ∧ p b = true := by
  obtain ⟨e, he, rfl⟩ := Option.map_eq_some_iff.mp h
  have accepted : p e.2 = true := List.find?_some (p := fun e : Nat × β => p e.2) he
  exact ⟨e.2, lookup_eq_some.mpr (List.mem_of_find?_eq_some he), accepted⟩

theorem find_none : P.find p = none ↔ ∀ i b, P.lookup i = some b → p b = false := by
  rw [find, Option.map_eq_none_iff, List.find?_eq_none]
  constructor
  · intro h i b hb
    simpa using h (i, b) (lookup_eq_some.mp hb)
  · intro h e he
    simpa using h e.1 e.2 (lookup_eq_some.mpr he)

@[simp] theorem next_keep : (P.keep p).next = P.next := rfl

theorem lookup_keep (i : Nat) : (P.keep p).lookup i = (P.lookup i).filter p := by
  apply Option.ext
  intro b
  rw [lookup_eq_some, Option.filter_eq_some_iff, lookup_eq_some]
  exact List.mem_filter

theorem lookup_push (b : β) (j : Nat) :
    (P.push b).lookup j = if j = P.next then some b else P.lookup j := by
  apply Option.ext
  intro c
  rw [lookup_eq_some]
  split_ifs with h
  · subst h
    constructor
    · intro hc
      cases List.mem_append.mp hc with
      | inl hc => exact absurd (P.below _ hc) (Nat.lt_irrefl _)
      | inr hc => exact congrArg some (Prod.mk.inj (List.mem_singleton.mp hc)).2.symm
    · intro hc
      exact List.mem_append_right _ (Option.some.inj hc ▸ List.mem_singleton_self _)
  · rw [lookup_eq_some]
    constructor
    · intro hc
      cases List.mem_append.mp hc with
      | inl hc => exact hc
      | inr hc => exact absurd (Prod.mk.inj (List.mem_singleton.mp hc)).1 h
    · exact List.mem_append_left _

theorem lookup_modify {f : β → β} {c : β} : (P.modify i f).lookup j = some c ↔
    ∃ b, P.lookup j = some b ∧ (if j = i then f b else b) = c := by
  rw [lookup_eq_some, modify, List.mem_map]
  constructor
  · intro ⟨e, he, eq⟩
    have found := lookup_eq_some.mpr he
    by_cases key : e.1 = i
    · rw [if_pos key] at eq
      obtain ⟨rfl, rfl⟩ := Prod.mk.inj eq
      exact ⟨e.2, found, if_pos key⟩
    · rw [if_neg key] at eq
      obtain ⟨rfl, rfl⟩ := Prod.mk.inj eq
      exact ⟨e.2, found, if_neg key⟩
  · intro ⟨b, hb, eq⟩
    refine ⟨(j, b), lookup_eq_some.mp hb, ?_⟩
    rw [← eq]
    split_ifs <;> rfl

/-- What a change leaves as it is stays so of every entry. -/
theorem map_lookup_modify {f : β → β} {g : β → γ} (h : ∀ b, g (f b) = g b) :
    ((P.modify i f).lookup j).map g = (P.lookup j).map g := by
  apply Option.ext
  intro c
  simp only [Option.map_eq_some_iff, lookup_modify]
  constructor
  · intro ⟨d, ⟨b, hb, hd⟩, hc⟩
    refine ⟨b, hb, ?_⟩
    rw [← hc, ← hd]
    split_ifs
    · exact (h b).symm
    · rfl
  · intro ⟨b, hb, hc⟩
    refine ⟨_, ⟨b, hb, rfl⟩, ?_⟩
    rw [← hc]
    split_ifs
    · exact h b
    · rfl

theorem lookup_erase (P : Pool β) (i j : Nat) :
    (P.erase i).lookup j = if j = i then none else P.lookup j := by
  apply Option.ext
  intro b
  rw [lookup_eq_some, erase, List.mem_filter]
  split_ifs with h
  · simp [h]
  · simp [h, lookup_eq_some]

/-! What holds of every entry. -/

variable {Q : β → Prop}

theorem forall_push (all : ∀ j c, P.lookup j = some c → Q c) (new : Q b) :
    ∀ j c, (P.push b).lookup j = some c → Q c := by
  intro j c hc
  rw [lookup_push] at hc
  split_ifs at hc
  · exact Option.some.inj hc ▸ new
  · exact all j c hc

theorem forall_modify {f : β → β} (all : ∀ j c, P.lookup j = some c → Q c) (found : P.lookup i = some b)
    (new : Q (f b)) : ∀ j c, (P.modify i f).lookup j = some c → Q c := by
  intro j c hc
  obtain ⟨d, hd, rfl⟩ := lookup_modify.mp hc
  split_ifs with same
  · subst same
    rw [hd] at found
    exact Option.some.inj found ▸ new
  · exact all j d hd

theorem forall_erase (all : ∀ j c, P.lookup j = some c → Q c) (i : Nat) :
    ∀ j c, (P.erase i).lookup j = some c → Q c := by
  intro j c hc
  rw [lookup_erase] at hc
  split_ifs at hc
  exact all j c hc

/-! Sums. -/

theorem total_push (P : Pool β) (b : β) (g : β → Nat) : (P.push b).total g = P.total g + g b := by
  simp [total, push]

/-- The entry that is changed, the others, and how a change and a removal treat them. -/
theorem entries_of_lookup (h : P.lookup i = some b) : ∃ before after,
    P.entries = before ++ (i, b) :: after ∧ (∀ e ∈ before, e.1 ≠ i) ∧ ∀ e ∈ after, e.1 ≠ i := by
  obtain ⟨before, after, cut⟩ := List.append_of_mem (lookup_eq_some.mp h)
  have once := P.nodup
  rw [cut, List.map_append, List.map_cons, List.nodup_append, List.nodup_cons] at once
  obtain ⟨-, ⟨later, -⟩, apart⟩ := once
  refine ⟨before, after, cut, ?_, ?_⟩
  · intro e he
    exact apart e.1 (List.mem_map_of_mem he) i List.mem_cons_self
  · intro e he same
    exact later (List.mem_map.mpr ⟨e, he, same⟩)

theorem total_modify (h : P.lookup i = some b) (f : β → β) (g : β → Nat) :
    (P.modify i f).total g + g b = P.total g + g (f b) := by
  obtain ⟨before, after, cut, front, back⟩ := entries_of_lookup h
  have kept : ∀ es : List (Nat × β), (∀ e ∈ es, e.1 ≠ i) →
      es.map (fun e => if e.1 = i then (e.1, f e.2) else e) = es := by
    intro es others
    exact (List.map_congr_left fun e he => if_neg (others e he)).trans (List.map_id es)
  simp only [total, modify, cut, List.map_append, List.map_cons, kept before front, kept after back,
    if_pos, List.sum_append, List.sum_cons]
  omega

theorem total_erase (h : P.lookup i = some b) (g : β → Nat) : (P.erase i).total g + g b = P.total g := by
  obtain ⟨before, after, cut, front, back⟩ := entries_of_lookup h
  have kept : ∀ es : List (Nat × β), (∀ e ∈ es, e.1 ≠ i) → es.filter (fun e => e.1 ≠ i) = es := by
    intro es others
    exact List.filter_eq_self.mpr fun e he => decide_eq_true (others e he)
  simp only [total, erase, cut, List.filter_append, List.filter_cons, kept before front,
    kept after back, ne_eq, not_true_eq_false, decide_false, Bool.false_eq_true, if_false,
    List.map_append, List.map_cons, List.sum_append, List.sum_cons]
  omega

theorem modify_push_next (f : β → β) (b : β) :
    (P.push b).modify P.next f = P.push (f b) := by
  have old : P.entries.map (fun e => if e.1 = P.next then (e.1, f e.2) else e) = P.entries := by
    conv_rhs => rw [← List.map_id P.entries]
    apply List.map_congr_left
    intro e he
    exact if_neg (Nat.ne_of_lt (P.below e he))
  simp only [push, modify, List.map_append, old, List.map_singleton, if_pos]

theorem size_le_count_add_count (h : ∀ i b, P.lookup i = some b → p b = true ∨ q b = true) :
    P.size ≤ P.count p + P.count q := by
  have all : ∀ e ∈ P.entries, p e.2 = true ∨ q e.2 = true :=
    fun e he => h e.1 e.2 (lookup_eq_some.mpr he)
  rw [size, count, count]
  generalize P.entries = es at all
  induction es with
  | nil => exact Nat.zero_le _
  | cons e es ih =>
    have tail := ih fun x hx => all x (List.mem_cons_of_mem e hx)
    rw [List.length_cons, List.countP_cons, List.countP_cons]
    cases all e List.mem_cons_self with
    | inl he =>
      rw [if_pos he]
      omega
    | inr he =>
      rw [if_pos he]
      omega

theorem mem_selected : b ∈ P.selected p ↔ ∃ i, P.lookup i = some b ∧ p b = true := by
  simp only [selected, List.mem_map, List.mem_filter]
  constructor
  · intro ⟨e, ⟨he, hp⟩, eq⟩
    exact ⟨e.1, lookup_eq_some.mpr (eq ▸ he), eq ▸ hp⟩
  · intro ⟨i, hi, hp⟩
    exact ⟨(i, b), ⟨lookup_eq_some.mp hi, hp⟩, rfl⟩

end Pool

end Anbox.Framework
