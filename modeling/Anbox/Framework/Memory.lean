import Anbox.Framework.Codec
import Anbox.Framework.Counted

namespace Anbox.Framework

/-- Memory as a reader finds it: where no byte can be read there is none. -/
abbrev ByteMemory := Int → Option UInt8

/-- A store with addresses of its own, from 0 on; a cell that nothing was written to cannot be read. -/
def cells (s : List (Option UInt8)) : ByteMemory := fun a => if 0 ≤ a then (s[a.toNat]?).join else none

/-- The `n` bytes from `a` on, if all of them can be read. -/
def load (m : ByteMemory) (a : Int) (n : Nat) : Option (List UInt8) :=
  (List.range n).mapM fun (k : Nat) => m (a + k)

/-- `n` records of `w` bytes, each `pitch` behind the one before. -/
def records (m : ByteMemory) (a pitch : Int) (w n : Nat) : Option (List (List UInt8)) :=
  (List.range n).mapM fun (k : Nat) => load m (a + pitch * k) w

/-- `n` numbers of `w` bytes, one behind the other. -/
def numbers (m : ByteMemory) (a : Int) (w n : Nat) : Option (List Nat) :=
  (records m a w w n).map (List.map ofLittle)

section

variable {α β : Type*} {f g : α → Option β} {l : List α}

theorem mapM_congr (h : ∀ x ∈ l, f x = g x) : l.mapM f = l.mapM g := by
  induction l with
  | nil => rfl
  | cons x l ih =>
    obtain ⟨first, later⟩ := List.forall_mem_cons.mp h
    rw [List.mapM_cons, List.mapM_cons, first, ih later]

theorem mapM_range_succ (n : Nat) (f : Nat → Option β) :
    (List.range (n + 1)).mapM f = ((List.range n).mapM f).bind fun bs => (f n).map fun b => bs ++ [b] := by
  rw [List.range_succ, List.mapM_append]
  cases (List.range n).mapM f with
  | none => rfl
  | some bs => cases h : f n <;> simp [h]

theorem mapM_range_eq_some_iff {n : Nat} {f : Nat → Option β} {bs : List β} :
    (List.range n).mapM f = some bs ↔ bs.length = n ∧ ∀ k < n, f k = bs[k]? := by
  induction n generalizing bs with
  | zero => simp [List.length_eq_zero_iff, eq_comm]
  | succ n ih =>
    rw [mapM_range_succ]
    constructor
    · intro h
      obtain ⟨front, hfront, h⟩ := Option.bind_eq_some_iff.mp h
      obtain ⟨b, hb, rfl⟩ := Option.map_eq_some_iff.mp h
      obtain ⟨rfl, each⟩ := ih.mp hfront
      refine ⟨by simp, ?_⟩
      intro k hk
      by_cases last : k = front.length
      · simpa [last] using hb
      · have before : k < front.length := by omega
        rw [each k before, List.getElem?_append_left before]
    · intro ⟨length, each⟩
      have front : (List.range n).mapM f = some (bs.take n) := by
        refine ih.mpr ⟨by simp [length], ?_⟩
        intro k hk
        rw [each k (by omega), List.getElem?_take_of_lt hk]
      have last : f n = some bs[n] := by rw [each n (by omega), List.getElem?_eq_getElem (by omega)]
      have whole : bs.take n ++ [bs[n]] = bs := by
        rw [List.take_append_getElem, List.take_of_length_le (by omega)]
      simp [front, last, whole]

end

variable {m m' : ByteMemory} {a a' : Int}

theorem load_congr {n : Nat} (h : ∀ k < n, m (a + (k : Nat)) = m' (a' + (k : Nat))) :
    load m a n = load m' a' n :=
  mapM_congr fun k hk => h k (List.mem_range.mp hk)

theorem load_eq_some_iff {n : Nat} {bs : List UInt8} :
    load m a n = some bs ↔ bs.length = n ∧ ∀ k < n, m (a + (k : Nat)) = bs[k]? :=
  mapM_range_eq_some_iff

@[simp] theorem load_zero : load m a 0 = some [] := rfl

theorem length_of_load {n : Nat} {bs : List UInt8} (h : load m a n = some bs) : bs.length = n :=
  (load_eq_some_iff.mp h).1

theorem load_add (n k : Nat) :
    load m a (n + k) = (load m a n).bind fun bs => (load m (a + n) k).map fun cs => bs ++ cs := by
  induction k with
  | zero => cases load m a n <;> simp
  | succ k ih =>
    have step (b : Int) (j : Nat) :
        load m b (j + 1) = (load m b j).bind fun bs => (m (b + j)).map fun c => bs ++ [c] :=
      mapM_range_succ j _
    rw [← Nat.add_assoc, step, ih, step]
    cases load m a n with
    | none => rfl
    | some bs =>
      cases load m (a + n) k with
      | none => rfl
      | some cs =>
        have same : a + ((n + k : Nat) : Int) = a + n + k := by omega
        rw [same, Option.bind_some]
        cases m (a + n + k) <;> simp

theorem records_succ (pitch : Int) (w n : Nat) :
    records m a pitch w (n + 1) =
      (records m a pitch w n).bind fun rs => (load m (a + pitch * n) w).map fun r => rs ++ [r] :=
  mapM_range_succ n _

theorem records_eq_some_iff {pitch : Int} {w n : Nat} {rs : List (List UInt8)} :
    records m a pitch w n = some rs ↔
      rs.length = n ∧ ∀ k < n, load m (a + pitch * (k : Nat)) w = rs[k]? :=
  mapM_range_eq_some_iff

/-- Records with nothing between them are one piece. -/
theorem load_mul (w n : Nat) : load m a (n * w) = (records m a w w n).map List.flatten := by
  induction n with
  | zero => rw [Nat.zero_mul]; rfl
  | succ n ih =>
    have front : ((n * w : Nat) : Int) = w * n := by rw [Nat.cast_mul, Int.mul_comm]
    rw [Nat.succ_mul, load_add, ih, records_succ, front]
    cases records m a w w n with
    | none => rfl
    | some rs => cases load m (a + w * n) w <;> simp

theorem length_of_records {pitch : Int} {w n : Nat} {rs : List (List UInt8)}
    (h : records m a pitch w n = some rs) : ∀ r ∈ rs, r.length = w := by
  obtain ⟨rfl, each⟩ := records_eq_some_iff.mp h
  intro r hr
  obtain ⟨k, hk, rfl⟩ := List.getElem_of_mem hr
  exact length_of_load ((each k hk).trans (List.getElem?_eq_getElem hk))

theorem load_nothing {w : Nat} (hw : 0 < w) : load (cells []) a w = none := by
  cases h : load (cells []) a w with
  | none => rfl
  | some bs =>
    obtain ⟨rfl, each⟩ := load_eq_some_iff.mp h
    have first := each 0 hw
    rw [List.getElem?_eq_getElem hw, cells] at first
    split_ifs at first
    cases first

theorem numbers_nothing {w n : Nat} (hw : 0 < w) (hn : 0 < n) : numbers (cells []) a w n = none := by
  cases h : numbers (cells []) a w n with
  | none => rfl
  | some ns =>
    obtain ⟨rs, hrs, -⟩ := Option.map_eq_some_iff.mp h
    obtain ⟨rfl, each⟩ := records_eq_some_iff.mp hrs
    have first := each 0 hn
    rw [load_nothing hw, List.getElem?_eq_getElem hn] at first
    cases first

/-! Stores that are packed anew. -/

theorem cells_some (bs : List UInt8) (k : Nat) : cells (bs.map some) k = bs[k]? := by
  rw [cells, if_pos (Int.natCast_nonneg k), Int.toNat_natCast, List.getElem?_map]
  cases bs[k]? <;> rfl

/-- A copy is read as the memory it was taken from. -/
theorem load_copy {n : Nat} {bs : List UInt8} (h : load m a n = some bs) {k j : Nat} (inside : k + j ≤ n) :
    load (cells (bs.map some)) k j = load m (a + k) j := by
  obtain ⟨-, each⟩ := load_eq_some_iff.mp h
  apply load_congr
  intro i hi
  have there : (k : Int) + (i : Nat) = ((k + i : Nat) : Int) := (Nat.cast_add k i).symm
  rw [there, cells_some, ← each (k + i) (by omega), Nat.cast_add, Int.add_assoc]

theorem load_whole (bs : List UInt8) : load (cells (bs.map some)) 0 bs.length = some bs := by
  refine load_eq_some_iff.mpr ⟨rfl, ?_⟩
  intro k hk
  rw [Int.zero_add, cells_some]

/-- Records of one width are found again where they were packed. -/
theorem load_packed {w : Nat} {rs : List (List UInt8)} (width : ∀ r ∈ rs, r.length = w) {k : Nat}
    (hk : k < rs.length) : load (cells (rs.flatten.map some)) ((w : Int) * k) w = rs[k]? := by
  have whole : load (cells (rs.flatten.map some)) 0 (rs.length * w) = some rs.flatten := by
    have length : rs.flatten.length = rs.length * w := by
      rw [List.length_flatten, List.map_congr_left width, List.map_const', List.sum_replicate_nat]
    exact length ▸ load_whole rs.flatten
  rw [load_mul] at whole
  obtain ⟨ts, hts, same⟩ := Option.map_eq_some_iff.mp whole
  obtain ⟨count, each⟩ := records_eq_some_iff.mp hts
  have pieces : ts = rs := by
    refine List.eq_iff_flatten_eq.mpr ⟨same, ?_⟩
    rw [List.map_congr_left width, List.map_congr_left (length_of_records hts), List.map_const',
      List.map_const', count]
  rw [← congrArg (fun l => l[k]?) pieces, ← each k hk, Int.zero_add]

/-- What is packed has the same records, one behind the other. -/
theorem records_packed {pitch : Int} {w n : Nat} {rs : List (List UInt8)}
    (h : records m a pitch w n = some rs) {k : Nat} (hk : k < n) :
    load (cells (rs.flatten.map some)) ((w : Int) * k) w = load m (a + pitch * k) w := by
  obtain ⟨rfl, each⟩ := records_eq_some_iff.mp h
  rw [load_packed (length_of_records h) hk, each k hk]

theorem records_copy {w n : Nat} {bs : List UInt8} (h : load m a (n * w) = some bs) :
    records (cells (bs.map some)) 0 w w n = records m a w w n := by
  apply mapM_congr
  intro k hk
  have inside : k * w + w ≤ n * w := by
    rw [← Nat.succ_mul]
    exact Nat.mul_le_mul_right w (List.mem_range.mp hk)
  have there : (0 : Int) + w * k = ((k * w : Nat) : Int) := by
    rw [Int.zero_add, Nat.cast_mul, Int.mul_comm]
  rw [there, load_copy h inside, Nat.cast_mul, Int.mul_comm]

theorem length_of_numbers {w n : Nat} {ns : List Nat} (h : numbers m a w n = some ns) : ns.length = n := by
  obtain ⟨rs, hrs, rfl⟩ := Option.map_eq_some_iff.mp h
  rw [List.length_map, (records_eq_some_iff.mp hrs).1]

theorem lt_of_numbers {w n : Nat} {ns : List Nat} (h : numbers m a w n = some ns) :
    ∀ x ∈ ns, x < 256^w := by
  obtain ⟨rs, hrs, rfl⟩ := Option.map_eq_some_iff.mp h
  intro x hx
  obtain ⟨r, hr, rfl⟩ := List.mem_map.mp hx
  exact length_of_records hrs r hr ▸ ofLittle_lt r

theorem isSome_load_of_numbers {w n : Nat} {ns : List Nat} (h : numbers m a w n = some ns) :
    ∃ bs, load m a (n * w) = some bs := by
  obtain ⟨rs, hrs, -⟩ := Option.map_eq_some_iff.mp h
  exact ⟨rs.flatten, by rw [load_mul, hrs, Option.map_some]⟩

theorem numbers_copy {w n : Nat} {bs : List UInt8} (h : load m a (n * w) = some bs) :
    numbers (cells (bs.map some)) 0 w n = numbers m a w n := by
  rw [numbers, numbers, records_copy h]

/-- Numbers written one behind the other are read back. -/
theorem numbers_little {w : Nat} {ns : List Nat} (small : ∀ n ∈ ns, n < 256^w) :
    numbers (cells ((ns.flatMap (little w)).map some)) 0 w ns.length = some ns := by
  have width : ∀ r ∈ ns.map (little w), r.length = w := by
    intro r hr
    obtain ⟨n, -, rfl⟩ := List.mem_map.mp hr
    exact length_little w n
  have back : records (cells (((ns.map (little w)).flatten).map some)) 0 w w ns.length =
      some (ns.map (little w)) := by
    refine records_eq_some_iff.mpr ⟨List.length_map _, ?_⟩
    intro k hk
    rw [Int.zero_add, load_packed width (by rwa [List.length_map])]
  rw [List.flatMap, numbers, back, Option.map_some, List.map_map]
  apply congrArg some
  calc ns.map (ofLittle ∘ little w) = ns.map id := List.map_congr_left fun n hn => by
        rw [Function.comp_apply, ofLittle_little, Nat.mod_eq_of_lt (small n hn), id]
    _ = ns := List.map_id ns

end Anbox.Framework
