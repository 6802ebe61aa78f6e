import Mathlib.Data.Nat.Digits.Lemmas

namespace Anbox.Framework

/-! Numbers as bytes, the lowest byte first. -/

def little : Nat → Nat → List UInt8
  | 0, _ => []
  | width + 1, n => UInt8.ofNat n :: little width (n / 256)

def ofLittle (bs : List UInt8) : Nat := Nat.ofDigits 256 (bs.map UInt8.toNat)

@[simp] theorem length_little (width n : Nat) : (little width n).length = width := by
  induction width generalizing n with
  | zero => rfl
  | succ width ih => rw [little, List.length_cons, ih]

theorem ofLittle_little (width n : Nat) : ofLittle (little width n) = n % 256^width := by
  induction width generalizing n with
  | zero => rw [Nat.pow_zero, Nat.mod_one, little, ofLittle, List.map_nil, Nat.ofDigits_nil]
  | succ width ih =>
    have digit : (UInt8.ofNat n).toNat = n % 256 := UInt8.toNat_ofNat'
    calc ofLittle (little (width + 1) n) = n % 256 + 256 * ofLittle (little width (n / 256)) := by
          rw [little, ofLittle, List.map_cons, Nat.ofDigits_cons, digit, ofLittle]
      _ = n % (256 * 256^width) := by rw [ih, Nat.mod_mul]
      _ = n % 256^(width + 1) := by rw [Nat.pow_succ']

theorem ofLittle_lt (bs : List UInt8) : ofLittle bs < 256^bs.length := by
  have digits : ∀ d ∈ bs.map UInt8.toNat, d < 256 := by
    intro d hd
    obtain ⟨b, -, rfl⟩ := List.mem_map.mp hd
    exact b.toNat_lt
  have bound := Nat.ofDigits_lt_base_pow_length (by decide) digits
  rwa [List.length_map] at bound

/-! Items, one behind the other. -/

variable {α β κ : Type*}

/-- So many from the front, if there are so many. -/
def splitFront (n : Nat) (b : List β) : Option (List β × List β) :=
  if n ≤ b.length then some (b.take n, b.drop n) else none

theorem splitFront_append {n : Nat} {front : List β} (h : front.length = n) (tail : List β) :
    splitFront n (front ++ tail) = some (front, tail) := by
  subst h
  rw [splitFront, if_pos (by simp), List.take_left, List.drop_left]

theorem length_of_splitFront {n : Nat} {b front tail : List β}
    (h : splitFront n b = some (front, tail)) : front.length = n := by
  obtain ⟨enough, same⟩ := Option.ite_none_right_eq_some.mp h
  obtain ⟨rfl, rfl⟩ := Prod.mk.inj (Option.some.inj same)
  exact List.length_take_of_le enough

theorem length_splitFront {n : Nat} {b front tail : List β}
    (h : splitFront n b = some (front, tail)) : b.length = n + tail.length := by
  obtain ⟨enough, same⟩ := Option.ite_none_right_eq_some.mp h
  obtain ⟨rfl, rfl⟩ := Prod.mk.inj (Option.some.inj same)
  rw [List.length_drop]
  omega

/-- One piece of each of the lengths, from the front. -/
def splitFronts : List Nat → List β → Option (List (List β) × List β)
  | [], b => some ([], b)
  | n :: ns, b => (splitFront n b).bind fun p => (splitFronts ns p.2).map fun q => (p.1 :: q.1, q.2)

theorem splitFronts_flatten {ns : List Nat} {pieces : List (List β)}
    (h : pieces.map List.length = ns) (tail : List β) :
    splitFronts ns (pieces.flatten ++ tail) = some (pieces, tail) := by
  induction pieces generalizing ns with
  | nil =>
    subst h
    rfl
  | cons piece pieces ih =>
    subst h
    rw [List.map_cons, splitFronts, List.flatten_cons, List.append_assoc, splitFront_append rfl,
      Option.bind_some, ih rfl]
    rfl

variable (read : κ → List β → Option (α × List β))

/-- Items of known kinds are read, and nothing is left. -/
def readAll : List κ → List β → Option (List α)
  | [], [] => some []
  | [], _ :: _ => none
  | k :: ks, b => (read k b).bind fun p => (readAll ks p.2).map fun as => p.1 :: as

variable {read}

theorem readAll_written {write : α → List β} {kind : α → κ} {as : List α}
    (back : ∀ a ∈ as, ∀ tail, read (kind a) (write a ++ tail) = some (a, tail)) :
    readAll read (as.map kind) (as.flatMap write) = some as := by
  induction as with
  | nil => rfl
  | cons a as ih =>
    obtain ⟨first, later⟩ := List.forall_mem_cons.mp back
    rw [List.map_cons, List.flatMap_cons, readAll, first, Option.bind_some, ih later]
    rfl

/-- What holds of every item that can be read holds of all that are. -/
theorem forall_of_readAll {P : α → Prop} (item : ∀ k b a tail, read k b = some (a, tail) → P a)
    {ks : List κ} {b : List β} {as : List α} (h : readAll read ks b = some as) : ∀ a ∈ as, P a := by
  induction ks generalizing b as with
  | nil =>
    cases b with
    | nil =>
      obtain rfl := Option.some.inj h
      exact nofun
    | cons x b => cases h
  | cons k ks ih =>
    rw [readAll, Option.bind_eq_some_iff] at h
    obtain ⟨⟨a, tail⟩, first, later⟩ := h
    obtain ⟨rest, hrest, rfl⟩ := Option.map_eq_some_iff.mp later
    exact List.forall_mem_cons.mpr ⟨item k b a tail first, ih hrest⟩

end Anbox.Framework
