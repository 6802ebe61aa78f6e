import Anbox.Graphics.RendererHandles

namespace Anbox.Graphics.Renderer

open Anbox.Framework

variable {τ : Type*}

/-- Each entry counts one for the creation of its color buffer and one for each time it was opened,
less the times it was closed; the color buffers without an entry are those for which this is
zero. -/
structure Exact (s : State τ) : Prop where
  refcount : ∀ h ref, s.mColorbuffers.lookup h = some ref →
    ref.refcount.toNat + s.closes ref.cb = 1 + s.opens ref.cb
  nonnegative : ∀ cb < s.colorBuffers, s.closes cb ≤ 1 + s.opens cb
  removed : ∀ cb < s.colorBuffers, s.closes cb = 1 + s.opens cb ↔
    ∀ h ref, s.mColorbuffers.lookup h = some ref → ref.cb ≠ cb

/-- A new color buffer gets a handle of its own, a counter that is opened has room for one more, and
a thread that ends has no surface with a color buffer attached that is still there. -/
def Balanced (s : State τ) : Action τ → Prop
  | .createColorBuffer created => created = true → Clear s
  | .openColorBuffer p => ∀ ref, s.mColorbuffers.lookup p = some ref →
      ref.refcount.toNat + 1 < 2^32
  | .drainWindowSurface t => ∀ h ∈ s.mWindowSet t, ∀ w old, s.mWindows.lookup h = some (w, old) →
      old ≠ 0 → s.mColorbuffers.lookup old = none
  | _ => True

structure Counted (s : State τ) : Prop where
  live : ∀ h ref, s.mColorbuffers.lookup h = some ref → ref.cb < s.colorBuffers ∧
    0 < ref.refcount.toNat ∧ ref.refcount.toNat + s.closes ref.cb = 1 + s.opens ref.cb
  unique : ∀ h k ref other, s.mColorbuffers.lookup h = some ref →
    s.mColorbuffers.lookup k = some other → ref.cb = other.cb → h = k
  gone : ∀ cb < s.colorBuffers, (∀ h ref, s.mColorbuffers.lookup h = some ref → ref.cb ≠ cb) →
    s.closes cb = 1 + s.opens cb
  unborn : ∀ cb ≥ s.colorBuffers, s.opens cb = 0 ∧ s.closes cb = 0

/-- A color buffer that is there has not been closed as often as it was created and opened. -/
theorem Counted.more {s : State τ} (c : Counted s) {h : HandleType} {ref : ColorBufferRef}
    (live : s.mColorbuffers.lookup h = some ref) : s.closes ref.cb < 1 + s.opens ref.cb := by
  obtain ⟨-, pos, balance⟩ := c.live h ref live
  omega

theorem Counted.exact {s : State τ} (c : Counted s) : Exact s where
  refcount h ref live := (c.live h ref live).2.2
  nonnegative cb hcb := by
    by_cases gone : ∀ h ref, s.mColorbuffers.lookup h = some ref → ref.cb ≠ cb
    · exact (c.gone cb hcb gone).le
    · push Not at gone
      obtain ⟨h, ref, live, rfl⟩ := gone
      exact (c.more live).le
  removed cb hcb := by
    constructor
    · rintro zero h ref live rfl
      exact absurd zero (c.more live).ne
    · exact c.gone cb hcb

theorem Counted.of_eq {s t : State τ} (c : Counted s) (maps : t.mColorbuffers = s.mColorbuffers)
    (created : t.colorBuffers = s.colorBuffers) (opens : t.opens = s.opens)
    (closes : t.closes = s.closes) : Counted t where
  live := by
    rw [maps, created, opens, closes]
    exact c.live
  unique := by
    rw [maps]
    exact c.unique
  gone := by
    rw [maps, created, opens, closes]
    exact c.gone
  unborn := by
    rw [created, opens, closes]
    exact c.unborn

theorem counted_init : Counted (init : State τ) where
  live h ref live := by cases live
  unique h k ref other live := by cases live
  gone cb hcb := absurd hcb (Nat.not_lt_zero cb)
  unborn cb _ := ⟨rfl, rfl⟩

/-! Releases. -/

/-- What is left of an entry with one reference less. -/
theorem released_cases {m : ColorBufferMap} {h : HandleType} {ref : ColorBufferRef}
    (live : m.lookup h = some ref) (pos : 0 < ref.refcount.toNat) :
    ref.refcount.toNat = 1 ∧ (release m h).lookup h = none ∨
    ∃ rest, 0 < rest.toNat ∧ rest.toNat + 1 = ref.refcount.toNat ∧
      (release m h).lookup h = some { ref with refcount := rest } := by
  have less : (ref.refcount - 1).toNat + 1 = ref.refcount.toNat := by
    have one : (1 : UInt32) ≤ ref.refcount := UInt32.le_iff_toNat_le.mpr pos
    rw [UInt32.toNat_sub_of_le _ _ one, UInt32.toNat_one]
    omega
  unfold release
  rw [live]
  dsimp only
  split_ifs with zero
  · left
    rw [zero] at less
    exact ⟨less.symm, AList.lookup_erase ..⟩
  · right
    refine ⟨ref.refcount - 1, ?_, less, AList.lookup_insert ..⟩
    apply Nat.pos_of_ne_zero
    intro hz
    exact zero (UInt32.toNat_inj.mp hz)

theorem release_ne {m : ColorBufferMap} {h k : HandleType} (ne : k ≠ h) :
    (release m h).lookup k = m.lookup k := by
  unfold release
  split
  · rfl
  · split_ifs
    · exact AList.lookup_erase_ne ne
    · exact AList.lookup_insert_ne ne

/-- One entry is written to or taken out, and what is counted of its color buffer with it. -/
theorem Counted.update {s t : State τ} (c : Counted s) {p : HandleType} {ref : ColorBufferRef}
    (live : s.mColorbuffers.lookup p = some ref)
    (others : ∀ k, k ≠ p → t.mColorbuffers.lookup k = s.mColorbuffers.lookup k)
    (created : t.colorBuffers = s.colorBuffers)
    (opens : ∀ cb, cb ≠ ref.cb → t.opens cb = s.opens cb)
    (closes : ∀ cb, cb ≠ ref.cb → t.closes cb = s.closes cb)
    (here : ∀ r, t.mColorbuffers.lookup p = some r → r.cb = ref.cb ∧ 0 < r.refcount.toNat ∧
      r.refcount.toNat + t.closes ref.cb = 1 + t.opens ref.cb)
    (gone : t.mColorbuffers.lookup p = none → t.closes ref.cb = 1 + t.opens ref.cb) : Counted t := by
  have born := (c.live p ref live).1
  have away {k : HandleType} {r : ColorBufferRef} (hk : k ≠ p)
      (h : t.mColorbuffers.lookup k = some r) :
      s.mColorbuffers.lookup k = some r ∧ r.cb ≠ ref.cb := by
    rw [others k hk] at h
    exact ⟨h, fun same => hk (c.unique k p r ref h live same)⟩
  refine ⟨?_, ?_, ?_, ?_⟩
  · intro k r h
    rw [created]
    by_cases hk : k = p
    · subst hk
      obtain ⟨same, pos, balance⟩ := here r h
      rw [same]
      exact ⟨born, pos, balance⟩
    · obtain ⟨before, ne⟩ := away hk h
      rw [opens _ ne, closes _ ne]
      exact c.live k r before
  · intro k l r q hk hl same
    by_cases kp : k = p
    · by_cases lp : l = p
      · rw [kp, lp]
      · subst kp
        exact absurd (same.symm.trans (here r hk).1) (away lp hl).2
    · by_cases lp : l = p
      · subst lp
        exact absurd (same.trans (here q hl).1) (away kp hk).2
      · exact c.unique k l r q (away kp hk).1 (away lp hl).1 same
  · intro cb hcb absent
    by_cases same : cb = ref.cb
    · subst same
      cases h : t.mColorbuffers.lookup p with
      | none => exact gone h
      | some r => exact absurd (here r h).1 (absent p r h)
    · rw [opens _ same, closes _ same]
      refine c.gone cb (created ▸ hcb) fun k r h => ?_
      by_cases hk : k = p
      · subst hk
        obtain rfl := Option.some.inj (live.symm.trans h)
        exact Ne.symm same
      · exact absent k r (by rwa [others k hk])
  · intro cb hcb
    rw [created] at hcb
    have ne : cb ≠ ref.cb := by
      rintro rfl
      exact absurd born (Nat.not_lt.mpr hcb)
    rw [opens _ ne, closes _ ne]
    exact c.unborn cb hcb

theorem Counted.close {s : State τ} (c : Counted s) {p : HandleType} {ref : ColorBufferRef}
    (live : s.mColorbuffers.lookup p = some ref) : Counted { s with
      mColorbuffers := release s.mColorbuffers p
      closes := Function.update s.closes ref.cb (s.closes ref.cb + 1) } := by
  obtain ⟨-, pos, balance⟩ := c.live p ref live
  have released := released_cases live pos
  refine c.update live (fun _ => release_ne) rfl (fun _ _ => rfl)
    (fun _ ne => Function.update_of_ne ne ..) ?_ ?_
  · intro r h
    dsimp only at h ⊢
    rw [Function.update_self]
    cases released with
    | inl last =>
      rw [last.2] at h
      cases h
    | inr rest =>
      obtain ⟨rest, some, less, hr⟩ := rest
      obtain rfl := Option.some.inj (hr.symm.trans h)
      refine ⟨rfl, some, ?_⟩
      dsimp only
      omega
  · intro h
    dsimp only at h ⊢
    rw [Function.update_self]
    cases released with
    | inl last => omega
    | inr rest =>
      obtain ⟨rest, -, -, hr⟩ := rest
      rw [hr] at h
      cases h

theorem Counted.open_ {s : State τ} (c : Counted s) {p : HandleType} {ref : ColorBufferRef}
    (live : s.mColorbuffers.lookup p = some ref) (room : ref.refcount.toNat + 1 < 2^32) :
    Counted { s with
      mColorbuffers := s.mColorbuffers.insert p { ref with refcount := ref.refcount + 1 }
      opens := Function.update s.opens ref.cb (s.opens ref.cb + 1) } := by
  obtain ⟨-, pos, balance⟩ := c.live p ref live
  have more : (ref.refcount + 1).toNat = ref.refcount.toNat + 1 := by
    rw [UInt32.toNat_add, UInt32.toNat_one, Nat.mod_eq_of_lt room]
  refine c.update live (fun _ => AList.lookup_insert_ne) rfl
    (fun _ ne => Function.update_of_ne ne ..) (fun _ _ => rfl) ?_ ?_
  · intro r h
    dsimp only at h ⊢
    rw [AList.lookup_insert] at h
    obtain rfl := Option.some.inj h
    rw [Function.update_self]
    dsimp only
    refine ⟨rfl, ?_, ?_⟩
    · omega
    · omega
  · intro h
    dsimp only at h
    rw [AList.lookup_insert] at h
    cases h

/-- The counter of 32 bits has no room for one more. -/
theorem Exact.room {s : State τ} (c : Counted s) {p : HandleType} {ref : ColorBufferRef}
    (live : s.mColorbuffers.lookup p = some ref) (exact : Exact { s with
      mColorbuffers := s.mColorbuffers.insert p { ref with refcount := ref.refcount + 1 }
      opens := Function.update s.opens ref.cb (s.opens ref.cb + 1) }) :
    ref.refcount.toNat + 1 < 2^32 := by
  have balance := (c.live p ref live).2.2
  have next := exact.refcount p _ (AList.lookup_insert ..)
  dsimp only at next
  rw [Function.update_self, UInt32.toNat_add, UInt32.toNat_one] at next
  have small := Nat.mod_lt (ref.refcount.toNat + 1) (show 0 < 2^32 by decide)
  omega

theorem Counted.create {s : State τ} (c : Counted s) {id : HandleType}
    (unused : s.mColorbuffers.lookup id = none) : Counted (s.addColorBuffer id) := by
  obtain ⟨opens, closes⟩ := c.unborn s.colorBuffers (Nat.le_refl _)
  have away {k : HandleType} {r : ColorBufferRef} (hk : k ≠ id)
      (h : (s.addColorBuffer id).mColorbuffers.lookup k = some r) :
      s.mColorbuffers.lookup k = some r := by
    rwa [State.addColorBuffer, AList.lookup_insert_ne hk] at h
  have here {r : ColorBufferRef} (h : (s.addColorBuffer id).mColorbuffers.lookup id = some r) :
      r = ⟨s.colorBuffers, 1⟩ := by
    rw [State.addColorBuffer, AList.lookup_insert] at h
    exact (Option.some.inj h).symm
  refine ⟨?_, ?_, ?_, ?_⟩
  · intro k r h
    change r.cb < s.colorBuffers + 1 ∧ _ ∧ r.refcount.toNat + s.closes r.cb = 1 + s.opens r.cb
    by_cases hk : k = id
    · subst hk
      rw [here h]
      exact ⟨Nat.lt_succ_self _, Nat.one_pos, by simp [opens, closes]⟩
    · obtain ⟨born, pos, balance⟩ := c.live k r (away hk h)
      exact ⟨Nat.lt_succ_of_lt born, pos, balance⟩
  · intro k l r q hk hl same
    by_cases kp : k = id
    · by_cases lp : l = id
      · rw [kp, lp]
      · subst kp
        rw [here hk] at same
        exact absurd same (c.live l q (away lp hl)).1.ne'
    · by_cases lp : l = id
      · subst lp
        rw [here hl] at same
        exact absurd same (c.live k r (away kp hk)).1.ne
      · exact c.unique k l r q (away kp hk) (away lp hl) same
  · intro cb hcb absent
    change s.closes cb = 1 + s.opens cb
    have ne : cb ≠ s.colorBuffers := Ne.symm (absent id _ (AList.lookup_insert ..))
    have born : cb < s.colorBuffers := by
      change cb < s.colorBuffers + 1 at hcb
      omega
    refine c.gone cb born fun k r h => ?_
    exact absent k r (lookup_insert_kept unused h)
  · intro cb hcb
    exact c.unborn cb ((Nat.le_succ _).trans hcb)

/-- A color buffer that is replaced is gone while it is still counted. -/
theorem Exact.unused {s : State τ} (c : Counted s) {id : HandleType}
    (exact : Exact (s.addColorBuffer id)) : s.mColorbuffers.lookup id = none := by
  by_contra used
  obtain ⟨ref, live⟩ := Option.ne_none_iff_exists'.mp used
  have born := (c.live id ref live).1
  have absent : ∀ k r, (s.addColorBuffer id).mColorbuffers.lookup k = some r → r.cb ≠ ref.cb := by
    intro k r h
    by_cases hk : k = id
    · subst hk
      rw [State.addColorBuffer, AList.lookup_insert] at h
      obtain rfl := Option.some.inj h
      exact born.ne'
    · rw [State.addColorBuffer, AList.lookup_insert_ne hk] at h
      exact fun same => hk (c.unique k id r ref h live same)
  have zero := (exact.removed ref.cb (Nat.lt_succ_of_lt born)).mpr absent
  exact absurd zero (c.more live).ne

/-! Drains. -/

/-- Entries are only counted down and taken out. -/
def Shrunk (m n : ColorBufferMap) : Prop :=
  ∀ k r, n.lookup k = some r → 0 < r.refcount.toNat ∧
    ∃ q, m.lookup k = some q ∧ q.cb = r.cb ∧ r.refcount.toNat ≤ q.refcount.toNat

theorem Shrunk.trans {l m n : ColorBufferMap} (lm : Shrunk l m) (mn : Shrunk m n) : Shrunk l n := by
  intro k r h
  obtain ⟨pos, q, hq, same, le⟩ := mn k r h
  obtain ⟨-, p, hp, before, more⟩ := lm k q hq
  exact ⟨pos, p, hp, before.trans same, le.trans more⟩

/-- A map of counters none of which is zero. -/
theorem shrunk_self {m : ColorBufferMap} (pos : ∀ k r, m.lookup k = some r → 0 < r.refcount.toNat) :
    Shrunk m m := fun k r h => ⟨pos k r h, r, h, rfl, Nat.le_refl _⟩

theorem Shrunk.release {m n : ColorBufferMap} (h : Shrunk m n) (p : HandleType) :
    Shrunk m (release n p) := by
  refine h.trans ?_
  intro k r hr
  by_cases hk : k = p
  · subst hk
    cases live : n.lookup k with
    | none =>
      rw [release_none k live] at hr
      cases hr
    | some q =>
      cases released_cases live (h k q live).1 with
      | inl last =>
        rw [last.2] at hr
        cases hr
      | inr rest =>
        obtain ⟨rest, some, less, hrest⟩ := rest
        obtain rfl := Option.some.inj (hrest.symm.trans hr)
        exact ⟨some, q, rfl, rfl, by dsimp only; omega⟩
  · rw [release_ne hk] at hr
    exact ⟨(h k r hr).1, r, hr, rfl, Nat.le_refl _⟩

theorem drainWindows_shrunk {s : State τ} {m : ColorBufferMap} (h : Shrunk m s.mColorbuffers)
    (hs : List HandleType) : Shrunk m (hs.foldl State.drainWindow s).mColorbuffers :=
  drainWindows_invariant (fun _ p hp => hp.release p) h

/-- The color buffer attached to a surface that is drained loses a reference. -/
theorem drainWindows_lost {hs : List HandleType} {s : State τ} {h : HandleType} (mem : h ∈ hs)
    (pos : ∀ k r, s.mColorbuffers.lookup k = some r → 0 < r.refcount.toNat) {w : Object τ}
    {old : HandleType} (window : s.mWindows.lookup h = some (w, old)) (attached : old ≠ 0)
    {ref : ColorBufferRef} (live : s.mColorbuffers.lookup old = some ref) :
    ∀ r, (hs.foldl State.drainWindow s).mColorbuffers.lookup old = some r →
      r.refcount.toNat < ref.refcount.toNat := by
  induction hs generalizing s ref with
  | nil => cases mem
  | cons a hs ih =>
    intro r hr
    rw [List.foldl_cons] at hr
    have shrunk : Shrunk s.mColorbuffers (s.drainWindow a).mColorbuffers :=
      drainWindows_shrunk (shrunk_self pos) [a]
    have positive k r (hk : (s.drainWindow a).mColorbuffers.lookup k = some r) :
        0 < r.refcount.toNat := (shrunk k r hk).1
    obtain ⟨-, q, hq, -, le⟩ := drainWindows_shrunk (shrunk_self positive) hs old r hr
    by_cases ha : a = h
    · subst ha
      have lost : (s.drainWindow a).mColorbuffers = release s.mColorbuffers old := by
        simp [State.drainWindow, window, attached]
      rw [lost] at hq
      cases released_cases live (pos old ref live) with
      | inl last =>
        rw [last.2] at hq
        cases hq
      | inr rest =>
        obtain ⟨rest, -, less, hrest⟩ := rest
        obtain rfl := Option.some.inj (hrest.symm.trans hq)
        dsimp only at le
        omega
    · have later : h ∈ hs := (List.mem_cons.mp mem).resolve_left (Ne.symm ha)
      have still : (s.drainWindow a).mWindows.lookup h = some (w, old) := by
        rw [drainWindow_eq, AList.lookup_erase_ne (Ne.symm ha), window]
      obtain ⟨-, before, hbefore, -, more⟩ := shrunk old q hq
      obtain rfl := Option.some.inj (live.symm.trans hbefore)
      exact (ih later positive still hq r hr).trans_le more

/-- Where no surface has a color buffer attached that is still there nothing is released. -/
theorem drainWindows_quiet {hs : List HandleType} {s : State τ}
    (quiet : ∀ h ∈ hs, ∀ w old, s.mWindows.lookup h = some (w, old) → old ≠ 0 →
      s.mColorbuffers.lookup old = none) :
    (hs.foldl State.drainWindow s).mColorbuffers = s.mColorbuffers := by
  induction hs generalizing s with
  | nil => rfl
  | cons a hs ih =>
    have same : (s.drainWindow a).mColorbuffers = s.mColorbuffers := by
      unfold State.drainWindow
      split
      · rfl
      · rename_i w old window
        dsimp only
        split_ifs with attached
        · rw [release, quiet a List.mem_cons_self w old window attached]
        · rfl
    rw [List.foldl_cons, ih, same]
    intro h hh w old window attached
    rw [same]
    rw [drainWindow_eq] at window
    by_cases ha : h = a
    · rw [ha, AList.lookup_erase] at window
      cases window
    · rw [AList.lookup_erase_ne ha] at window
      exact quiet h (List.mem_cons_of_mem a hh) w old window attached

variable [DecidableEq τ]

theorem drain_frame (s : State τ) (t : τ) :
    (s.drainWindowSurface t).mColorbuffers =
      ((s.mWindowSet t).foldl State.drainWindow s).mColorbuffers ∧
    (s.drainWindowSurface t).colorBuffers = s.colorBuffers ∧
    (s.drainWindowSurface t).opens = s.opens ∧ (s.drainWindowSurface t).closes = s.closes := by
  rw [drainWindowSurface_eq]
  exact ⟨rfl, rfl, rfl, rfl⟩

theorem Counted.drain {s : State τ} (c : Counted s) {t : τ}
    (balanced : Balanced s (.drainWindowSurface t)) : Counted (s.drainWindowSurface t) := by
  obtain ⟨maps, created, opens, closes⟩ := drain_frame s t
  exact c.of_eq (maps.trans (drainWindows_quiet balanced)) created opens closes

/-- A color buffer that lost a reference to a drain is counted wrong, or is gone too early. -/
theorem Exact.balanced {s : State τ} (c : Counted s) {t : τ}
    (exact : Exact (s.drainWindowSurface t)) : Balanced s (.drainWindowSurface t) := by
  intro h mem w old window attached
  by_contra used
  obtain ⟨ref, live⟩ := Option.ne_none_iff_exists'.mp used
  obtain ⟨born, -, balance⟩ := c.live old ref live
  have pos k r (hk : s.mColorbuffers.lookup k = some r) := (c.live k r hk).2.1
  have shrunk := drainWindows_shrunk (shrunk_self pos) (s.mWindowSet t)
  have lost := drainWindows_lost mem pos window attached live
  obtain ⟨maps, created, opens, closes⟩ := drain_frame s t
  rw [← maps] at shrunk lost
  have kept {k : HandleType} {r : ColorBufferRef}
      (hk : (s.drainWindowSurface t).mColorbuffers.lookup k = some r) (same : r.cb = ref.cb) :
      k = old := by
    obtain ⟨-, q, hq, before, -⟩ := shrunk k r hk
    exact c.unique k old q ref hq live (before.trans same)
  cases after : (s.drainWindowSurface t).mColorbuffers.lookup old with
  | some r =>
    have less := lost r after
    obtain ⟨-, q, hq, before, -⟩ := shrunk old r after
    obtain rfl := Option.some.inj (live.symm.trans hq)
    have counted := exact.refcount old r after
    rw [opens, closes, ← before] at counted
    omega
  | none =>
    have absent : ∀ k r, (s.drainWindowSurface t).mColorbuffers.lookup k = some r →
        r.cb ≠ ref.cb := by
      intro k r hk same
      rw [kept hk same, after] at hk
      cases hk
    have zero := (exact.removed ref.cb (created.symm ▸ born)).mpr absent
    rw [opens, closes] at zero
    exact absurd zero (c.more live).ne

/-! The steps. -/

theorem Counted.step {s t : State τ} {a : Action τ} (c : Counted s) (balanced : Balanced s a)
    (hs : step s a = some t) : Counted t := by
  cases step_cases hs with
  | colorBuffer hid => exact c.create ((unused_iff_clear hid).mpr (balanced rfl))
  | context | window => exact c.of_eq rfl rfl rfl rfl
  | nothing => exact c
  | drainRenderContext u =>
    rw [drainRenderContext_eq]
    exact c.of_eq rfl rfl rfl rfl
  | drainWindowSurface u => exact c.drain balanced
  | destroyRenderContext u p => exact c.of_eq rfl rfl rfl rfl
  | destroyWindowSurface u p =>
    by_cases live : (s.mWindows.lookup p).isSome = true
    · rw [State.destroyWindowSurface, if_pos live]
      exact c.of_eq rfl rfl rfl rfl
    · rw [State.destroyWindowSurface, if_neg live]
      exact c
  | openColorBuffer live => exact c.open_ live (balanced _ live)
  | closeColorBuffer live => exact c.close live
  | setColorBuffer window live => exact c.of_eq rfl rfl rfl rfl

theorem balanced_of_exact {s t : State τ} {a : Action τ} (c : Counted s) (hs : step s a = some t)
    (exact : Exact t) : Balanced s a := by
  cases step_cases hs with
  | colorBuffer hid => exact fun _ => (unused_iff_clear hid).mp (exact.unused c)
  | context | window => trivial
  | nothing refused =>
    cases a with
    | createColorBuffer created =>
      intro yes
      have no : created = false := refused
      rw [no] at yes
      cases yes
    | openColorBuffer p =>
      intro ref live
      have absent : s.mColorbuffers.lookup p = none := refused
      rw [absent] at live
      cases live
    | drainWindowSurface u => exact refused.elim
    | _ => trivial
  | drainRenderContext => trivial
  | drainWindowSurface u => exact exact.balanced c
  | destroyRenderContext | destroyWindowSurface => trivial
  | openColorBuffer live =>
    intro ref h
    obtain rfl := Option.some.inj (live.symm.trans h)
    exact exact.room c live
  | closeColorBuffer live => trivial
  | setColorBuffer window live => trivial

/-- In every state of a run the counters of the color buffers are right exactly when its steps are
balanced. -/
theorem refcounts_exact_iff (as : List (Action τ)) :
    Always step Exact init as ↔ Along step Balanced init as := by
  refine always_iff_along (I := Counted) ?_ ?_ ?_ as counted_init
  · intro s c
    exact c.exact
  · intro s a t c balanced hs
    exact c.step balanced hs
  · intro s a t c hs exact
    exact balanced_of_exact c hs exact

/-- A color buffer is attached to a surface, and the thread of the surface ends. -/
theorem attached_color_buffer_lost :
    ¬ ∀ as : List (Action Nat), Always step Exact init as := by
  intro h
  have run : ∃ s : State Nat, run step init [.createColorBuffer true, .createWindowSurface 1 true true,
      .setWindowSurfaceColorBuffer 2 1, .drainWindowSurface 1] = some s ∧ s.mColorbuffers = ∅ ∧
      s.colorBuffers = 1 ∧ s.opens 0 = 0 ∧ s.closes 0 = 0 := ⟨_, rfl, rfl, rfl, rfl, rfl⟩
  obtain ⟨s, hs, empty, created, opens, closes⟩ := run
  have removed := ((h _).last hs).removed 0 (by simp [created])
  rw [opens, closes, empty] at removed
  exact absurd (removed.mpr fun _ _ live => by cases live) (by decide)

end Anbox.Graphics.Renderer
