import Anbox.Container.LxcContainer
import Mathlib.Algebra.Group.Nat.Defs

namespace Anbox.Container

open Anbox.Framework

/-- What an item of the id map says: so many ids from `fromId` on are those from `toId` on on the
host. -/
structure IdRange where
  fromId : UInt32
  toId : UInt32
  range : UInt32
  deriving DecidableEq

namespace IdRange

/-- The ids of the container that are in the range. -/
def Contains (r : IdRange) (i : Nat) : Prop :=
  r.fromId.toNat ≤ i ∧ i < r.fromId.toNat + r.range.toNat

/-- The ids of the host. -/
def Reaches (r : IdRange) (i : Nat) : Prop :=
  r.toId.toNat ≤ i ∧ i < r.toId.toNat + r.range.toNat

def item (r : IdRange) (kind : String) : Item := Setup.idmap kind r.fromId r.toId r.range

end IdRange

def maxId : UInt32 := 100000

def firstRange : IdRange := ⟨0, unprivilegedUid, androidSystemUid - 1⟩

/-- The id of the process on the client side. -/
def clientRange (id : UInt32) : IdRange := ⟨androidSystemUid, id, 1⟩

def lastRange (id : UInt32) : IdRange :=
  ⟨androidSystemUid + 1, unprivilegedUid + androidSystemUid + 1, maxId - id - 1⟩

/-- The ranges for one kind of id, of which the client has `id`. -/
def idRanges (id : UInt32) : List IdRange := [firstRange, clientRange id, lastRange id]

theorem setupIdMap_eq (setup : Setup) : setup.setupIdMap =
    if setup.privileged_ then []
    else ((idRanges setup.uid).zip (idRanges setup.gid)).flatMap fun r =>
      [r.1.item "u", r.2.item "g"] := rfl

/-! What is wanted. -/

/-- The ranges are an id map for the ids `needed` in the container, whose system id is `id`. -/
structure Sound (needed : Nat → Prop) (id : UInt32) (ranges : List IdRange) : Prop where
  container : ranges.Pairwise fun r s => ∀ i, ¬ (r.Contains i ∧ s.Contains i)
  host : ranges.Pairwise fun r s => ∀ i, ¬ (r.Reaches i ∧ s.Reaches i)
  positive : ∀ r ∈ ranges, 0 < r.range
  /-- The last size is the difference it is written as, and no range goes beyond 32 bits. -/
  unwrapped : (∀ r ∈ ranges, r.fromId.toNat + r.range.toNat ≤ 2^32 ∧
    r.toId.toNat + r.range.toNat ≤ 2^32) ∧
    ((maxId - id - 1).toNat : Int) = (maxId.toNat : Int) - id.toNat - 1
  system : ∃ r ∈ ranges, r.Contains androidSystemUid.toNat ∧
    r.toId.toNat + (androidSystemUid.toNat - r.fromId.toNat) = id.toNat
  covers : ∀ i, needed i → ∃ r ∈ ranges, r.Contains i

/-! Which ids there are. -/

theorem first_contains {i : Nat} : firstRange.Contains i ↔ i < 999 := by
  simp [IdRange.Contains, firstRange, androidSystemUid]

theorem client_contains {id : UInt32} {i : Nat} : (clientRange id).Contains i ↔ i = 1000 := by
  simp only [IdRange.Contains, clientRange, androidSystemUid, UInt32.reduceToNat]
  omega

theorem last_contains {id : UInt32} {i : Nat} :
    (lastRange id).Contains i ↔ 1001 ≤ i ∧ i < 1001 + (maxId - id - 1).toNat := Iff.rfl

theorem first_reaches {i : Nat} : firstRange.Reaches i ↔ 100000 ≤ i ∧ i < 100999 := Iff.rfl

theorem client_reaches {id : UInt32} {i : Nat} : (clientRange id).Reaches i ↔ i = id.toNat := by
  simp only [IdRange.Reaches, clientRange, UInt32.reduceToNat]
  omega

theorem last_reaches {id : UInt32} {i : Nat} :
    (lastRange id).Reaches i ↔ 101001 ≤ i ∧ i < 101001 + (maxId - id - 1).toNat := Iff.rfl

/-- The ranges of the container have no id in common, whatever the client's is. -/
theorem container_disjoint (id : UInt32) :
    (idRanges id).Pairwise fun r s => ∀ i, ¬ (r.Contains i ∧ s.Contains i) := by
  simp only [idRanges, List.pairwise_cons, List.mem_cons, List.not_mem_nil, or_false,
    forall_eq_or_imp, forall_eq, first_contains, client_contains, last_contains]
  refine ⟨⟨?_, ?_⟩, ?_, by simp⟩
  · omega
  · omega
  · omega

/-- The last id before the system's own is in no range. -/
theorem not_covered (id : UInt32) : ¬ ∃ r ∈ idRanges id, r.Contains 999 := by
  intro given
  obtain ⟨r, hr, h⟩ := given
  obtain rfl | rfl | rfl : r = firstRange ∨ r = clientRange id ∨ r = lastRange id := by
    simpa [idRanges] using hr
  · exact absurd (first_contains.mp h) (by decide)
  · exact absurd (client_contains.mp h) (by decide)
  · exact absurd (last_contains.mp h).1 (by decide)

theorem size_of_le {id : UInt32} (h : id.toNat < 100000) :
    (maxId - id - 1).toNat = 99999 - id.toNat := by
  have le : id ≤ maxId := UInt32.le_iff_toNat_le.mpr (by simpa [maxId] using Nat.le_of_lt h)
  have difference : (maxId - id).toNat = 100000 - id.toNat := UInt32.toNat_sub_of_le _ _ le
  have one : (1 : UInt32) ≤ maxId - id := by
    rw [UInt32.le_iff_toNat_le, difference]
    exact (by omega : 1 ≤ 100000 - id.toNat)
  rw [UInt32.toNat_sub_of_le _ _ one, difference]
  exact (by omega : 100000 - id.toNat - 1 = 99999 - id.toNat)

/-- No client has an id for which the map is sound: the range before the system's id is one too small. -/
theorem setup_id_map_not_sound (id : UInt32) :
    ¬ Sound (fun i => i < maxId.toNat) id (idRanges id) := by
  intro h
  exact not_covered id (h.covers 999 (by decide))

theorem setup_id_map_gap : ¬ ∀ id : UInt32, Sound (fun i => i < maxId.toNat) id (idRanges id) := by
  intro h
  exact not_covered 1000 ((h 1000).covers 999 (by decide))

/-- With that id left aside, the map is sound for the clients whose id does not exceed the system's:
the last range counts from there, but is as long as if it began behind the client's id. -/
theorem sound_but_for_gap_iff (id : UInt32) :
    Sound (fun i => i < maxId.toNat ∧ i ≠ 999) id (idRanges id) ↔ id ≤ androidSystemUid := by
  have system : androidSystemUid.toNat = 1000 := rfl
  rw [UInt32.le_iff_toNat_le, system]
  constructor
  · intro h
    have exact_ := h.unwrapped.2
    have size : (maxId - id - 1).toNat = 99999 - id.toNat := by
      have limit : maxId.toNat = 100000 := rfl
      omega
    obtain ⟨r, hr, last⟩ := h.covers 99999 (by decide)
    obtain rfl | rfl | rfl : r = firstRange ∨ r = clientRange id ∨ r = lastRange id := by
      simpa [idRanges] using hr
    · exact absurd (first_contains.mp last) (by decide)
    · exact absurd (client_contains.mp last) (by decide)
    · have bound := (last_contains.mp last).2
      omega
  · intro h
    have size := size_of_le (by omega : id.toNat < 100000)
    constructor
    · exact container_disjoint id
    · simp only [idRanges, List.pairwise_cons, List.mem_cons, List.not_mem_nil, or_false,
        forall_eq_or_imp, forall_eq, first_reaches, client_reaches, last_reaches]
      refine ⟨⟨?_, ?_⟩, ?_, by simp⟩
      · omega
      · omega
      · omega
    · have last : 0 < maxId - id - 1 := by
        rw [UInt32.lt_iff_toNat_lt, size]
        exact (by omega : 0 < 99999 - id.toNat)
      simp only [idRanges, List.forall_mem_cons]
      exact ⟨by decide, Nat.one_pos, last, by simp⟩
    · constructor
      · have limit : (lastRange id).range.toNat = 99999 - id.toNat := size
        simp only [idRanges, List.forall_mem_cons, limit]
        refine ⟨by decide, ⟨(by decide : 1000 + 1 ≤ 2^32), ?_⟩, ⟨?_, ?_⟩, by simp⟩
        · exact (by omega : id.toNat + 1 ≤ 2^32)
        · exact (by omega : 1001 + (99999 - id.toNat) ≤ 2^32)
        · exact (by omega : 101001 + (99999 - id.toNat) ≤ 2^32)
      · have limit : maxId.toNat = 100000 := rfl
        omega
    · refine ⟨clientRange id, by simp [idRanges], client_contains.mpr rfl, ?_⟩
      exact (by omega : id.toNat + (1000 - 1000) = id.toNat)
    · intro i given
      obtain ⟨below, other⟩ := given
      have limit : maxId.toNat = 100000 := rfl
      obtain early | system | late : i < 999 ∨ i = 1000 ∨ 1001 ≤ i := by omega
      · exact ⟨firstRange, by simp [idRanges], first_contains.mpr early⟩
      · exact ⟨clientRange id, by simp [idRanges], client_contains.mpr system⟩
      · refine ⟨lastRange id, by simp [idRanges], last_contains.mpr ⟨late, ?_⟩⟩
        omega

end Anbox.Container
