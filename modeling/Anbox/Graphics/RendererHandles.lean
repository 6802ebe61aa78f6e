import Anbox.Graphics.Renderer

namespace Anbox.Graphics.Renderer

open Anbox.Framework

variable {τ : Type*}

/-- The number is not zero and names nothing. -/
structure Unused (s : State τ) (id : HandleType) : Prop where
  nonzero : id ≠ 0
  contexts : s.mContexts.lookup id = none
  windows : s.mWindows.lookup id = none
  colorbuffers : s.mColorbuffers.lookup id = none

/-- What a handle names it names afterwards. -/
structure Kept (s t : State τ) : Prop where
  contexts : ∀ h c, s.mContexts.lookup h = some c → t.mContexts.lookup h = some c
  windows : ∀ h w, s.mWindows.lookup h = some w → t.mWindows.lookup h = some w
  colorbuffers : ∀ h ref, s.mColorbuffers.lookup h = some ref → t.mColorbuffers.lookup h = some ref

/-- A creation returns an unused handle and replaces nothing. -/
def Fresh [DecidableEq τ] (s : State τ) (a : Action τ) : Prop :=
  s.creates a = true → ∀ id t, s.genHandle = some id → step s a = some t → Unused s id ∧ Kept s t

/-- No handle names objects of two kinds. -/
structure Disjoint (s : State τ) : Prop where
  contexts_windows : ∀ h, s.mContexts.lookup h = none ∨ s.mWindows.lookup h = none
  contexts_colorbuffers : ∀ h, s.mContexts.lookup h = none ∨ s.mColorbuffers.lookup h = none
  windows_colorbuffers : ∀ h, s.mWindows.lookup h = none ∨ s.mColorbuffers.lookup h = none

/-- Counted upwards and around, the number behind the counter comes before each color buffer's
handle, or else one between them is free: neither zero nor a context's or a window's. -/
def Clear (s : State τ) : Prop :=
  ∀ h, (s.mColorbuffers.lookup h).isSome = true → s.taken h = false →
    ∃ k < (h - (s.sNextHandle + 1)).toNat, s.taken (s.sNextHandle + 1 + UInt32.ofNat k) = false

/-! The numbers the loop tries. -/

theorem iterate_succ (a : HandleType) (k : Nat) : (· + 1)^[k + 1] a = a + 1 + UInt32.ofNat k := by
  induction k with
  | zero => simp
  | succ k ih =>
    rw [Function.iterate_succ_apply', ih, UInt32.ofNat_add]
    grind

theorem iterate_dist (a h : HandleType) : (· + 1)^[(h - (a + 1)).toNat + 1] a = h := by
  rw [iterate_succ, UInt32.ofNat_toNat]
  grind

/-- Within one round a number comes only once. -/
theorem dist_of_iterate {a h : HandleType} {k : Nat} (hk : k < 2^32) (at_ : (· + 1)^[k + 1] a = h) :
    k = (h - (a + 1)).toNat := by
  rw [iterate_succ] at at_
  have dist : h - (a + 1) = UInt32.ofNat k := by grind
  rw [dist, UInt32.toNat_ofNat_of_lt' hk]

/-- The loop ends unless each number is zero, a context's or a window's. -/
theorem genHandle_eq_none {s : State τ} : s.genHandle = none ↔ ∀ id, s.taken id = true := by
  unfold State.genHandle
  rw [search_eq_none]
  constructor
  · intro h id
    have reached := h _ (id - (s.sNextHandle + 1)).toNat_lt
    rwa [iterate_dist] at reached
  · exact fun h k _ => h _

theorem genHandle_next {s : State τ} (free : s.taken (s.sNextHandle + 1) = false) :
    s.genHandle = some (s.sNextHandle + 1) :=
  search_eq_some.mpr ⟨0, by decide, rfl, free, fun j hj => absurd hj (Nat.not_lt_zero j)⟩

/-- The handle that `genHandle` finds is no color buffer's exactly when each of these is too far
away. -/
theorem unused_iff_clear {s : State τ} {id : HandleType} (h : s.genHandle = some id) :
    s.mColorbuffers.lookup id = none ↔ Clear s := by
  have ne_iff (c : HandleType) (free : s.taken c = false) : id ≠ c ↔
      ∃ k < (c - (s.sNextHandle + 1)).toNat,
        s.taken (s.sNextHandle + 1 + UInt32.ofNat k) = false := by
    have found := search_ne_iff h (iterate_dist s.sNextHandle c) (UInt32.toNat_lt _)
      (fun i hi at_ => dist_of_iterate hi at_) free
    simpa only [iterate_succ] using found
  constructor
  · intro unused c live free
    refine (ne_iff c free).mp ?_
    rintro rfl
    rw [unused] at live
    cases live
  · intro clear
    by_contra used
    have free := search_free h
    exact (ne_iff id free).mpr (clear id (Option.isSome_iff_ne_none.mpr used) free) rfl

/-! The three maps. -/

/-- Nothing new is in the maps. -/
theorem Disjoint.shrink {s t : State τ} (d : Disjoint s)
    (contexts : ∀ h, s.mContexts.lookup h = none → t.mContexts.lookup h = none)
    (windows : ∀ h, s.mWindows.lookup h = none → t.mWindows.lookup h = none)
    (colorbuffers : ∀ h, s.mColorbuffers.lookup h = none → t.mColorbuffers.lookup h = none) :
    Disjoint t where
  contexts_windows h := (d.contexts_windows h).imp (contexts h) (windows h)
  contexts_colorbuffers h := (d.contexts_colorbuffers h).imp (contexts h) (colorbuffers h)
  windows_colorbuffers h := (d.windows_colorbuffers h).imp (windows h) (colorbuffers h)

theorem disjoint_init : Disjoint (init : State τ) :=
  ⟨fun _ => Or.inl rfl, fun _ => Or.inl rfl, fun _ => Or.inl rfl⟩

/-! Creations. -/

variable [DecidableEq τ]

/-- A creation under an unused handle replaces nothing. -/
theorem Unused.kept {s t : State τ} {a : Action τ} {id : HandleType} (unused : Unused s id)
    (creates : s.creates a = true) (h : s.genHandle = some id) (hs : step s a = some t) :
    Kept s t := by
  cases step_cases hs with
  | colorBuffer hid =>
    obtain rfl := Option.some.inj (h.symm.trans hid)
    exact ⟨fun _ _ hc => hc, fun _ _ hw => hw, fun _ _ hr => lookup_insert_kept unused.colorbuffers hr⟩
  | context _ hid =>
    obtain rfl := Option.some.inj (h.symm.trans hid)
    exact ⟨fun _ _ hc => lookup_insert_kept unused.contexts hc, fun _ _ hw => hw, fun _ _ hr => hr⟩
  | window _ hid =>
    obtain rfl := Option.some.inj (h.symm.trans hid)
    exact ⟨fun _ _ hc => hc, fun _ _ hw => lookup_insert_kept unused.windows hw, fun _ _ hr => hr⟩
  | nothing refused =>
    rw [refused.creates] at creates
    cases creates
  | drainRenderContext | drainWindowSurface | destroyRenderContext | destroyWindowSurface => cases creates
  | openColorBuffer | closeColorBuffer | setColorBuffer => cases creates

theorem fresh_iff {s t : State τ} {a : Action τ} (hs : step s a = some t) :
    Fresh s a ↔ (s.creates a = true → Clear s) := by
  constructor
  · intro fresh creates
    obtain ⟨id, hid⟩ := creates_genHandle creates hs
    exact (unused_iff_clear hid).mp (fresh creates id t hid hs).1.colorbuffers
  · intro clear creates id u hid hu
    obtain ⟨nonzero, contexts, windows⟩ := genHandle_free hid
    have unused : Unused s id :=
      ⟨nonzero, contexts, windows, (unused_iff_clear hid).mpr (clear creates)⟩
    exact ⟨unused, unused.kept creates hid hu⟩

theorem step_disjoint {s t : State τ} {a : Action τ} (d : Disjoint s) (fresh : Fresh s a)
    (hs : step s a = some t) : Disjoint t := by
  cases step_cases hs with
  | colorBuffer hid =>
    obtain ⟨-, contexts, windows⟩ := genHandle_free hid
    refine ⟨d.contexts_windows, fun h => ?_, fun h => ?_⟩
    · exact (disjoint_insert contexts h (d.contexts_colorbuffers h).symm).symm
    · exact (disjoint_insert windows h (d.windows_colorbuffers h).symm).symm
  | context creates hid =>
    have unused := (fresh creates _ _ hid hs).1
    refine ⟨fun h => ?_, fun h => ?_, d.windows_colorbuffers⟩
    · exact disjoint_insert unused.windows h (d.contexts_windows h)
    · exact disjoint_insert unused.colorbuffers h (d.contexts_colorbuffers h)
  | window creates hid =>
    have unused := (fresh creates _ _ hid hs).1
    refine ⟨fun h => ?_, d.contexts_colorbuffers, fun h => ?_⟩
    · exact (disjoint_insert unused.contexts h (d.contexts_windows h).symm).symm
    · exact disjoint_insert unused.colorbuffers h (d.windows_colorbuffers h)
  | nothing => exact d
  | drainRenderContext u =>
    rw [drainRenderContext_eq]
    exact d.shrink (fun _ => lookup_eraseAll_none _) (fun _ => id) (fun _ => id)
  | drainWindowSurface u =>
    rw [drainWindowSurface_eq]
    refine d.shrink (fun _ => id) (fun _ => lookup_eraseAll_none _) fun h absent => ?_
    exact drainWindows_invariant (P := fun m => m.lookup h = none)
      (fun m k hm => release_none k hm) absent
  | destroyRenderContext u p =>
    exact d.shrink (fun _ => lookup_erase_none p) (fun _ => id) (fun _ => id)
  | destroyWindowSurface u p =>
    unfold State.destroyWindowSurface
    split_ifs
    · exact d.shrink (fun _ => id) (fun _ => lookup_erase_none p) (fun _ => id)
    · exact d.shrink (fun _ => id) (fun _ => lookup_erase_none p) (fun _ => id)
    · exact d
  | openColorBuffer live => exact d.shrink (fun _ => id) (fun _ => id) fun _ => lookup_write_none live
  | closeColorBuffer live => exact d.shrink (fun _ => id) (fun _ => id) fun _ => release_none _
  | setColorBuffer window live => exact d.shrink (fun _ => id) (fun _ => lookup_write_none window) (fun _ => id)

theorem along_fresh_iff {s : State τ} {as : List (Action τ)} :
    Along step Fresh s as ↔ Along step (fun s a => s.creates a = true → Clear s) s as :=
  along_congr (I := fun _ => True) (fun _ _ _ _ _ => trivial) (fun _ _ _ _ => fresh_iff) as trivial

/-- In a run of any length each creation returns an unused handle, nothing is replaced and the maps
share no handle exactly when no creation finds a color buffer's handle before a free number. -/
theorem handles_unique_iff (as : List (Action τ)) :
    Along step Fresh init as ∧ Always step Disjoint init as ↔
      Along step (fun s a => s.creates a = true → Clear s) init as := by
  rw [← along_fresh_iff]
  constructor
  · exact And.left
  · intro fresh
    exact ⟨fresh, always_of_along (fun _ _ _ => step_disjoint) disjoint_init fresh⟩

/-! Once around. -/

/-- A context is created and taken away: the counter moves on and nothing else is left of it. -/
def churn : List (Action Nat) := [.createRenderContext 0 true 0 true, .drainRenderContext 0]

/-- The counter stands at `n`, and the first color buffer is all there is. -/
structure Churned (s : State Nat) (n : Nat) : Prop where
  counter : s.sNextHandle = UInt32.ofNat n
  contexts : s.mContexts = ∅
  windows : s.mWindows = ∅
  contextSet : s.mContextSet 0 = []
  colorbuffers : (s.mColorbuffers.lookup 1).isSome = true

theorem Churned.taken {s : State Nat} {n : Nat} (h : Churned s n) (id : HandleType) :
    s.taken id = decide (id = 0) := by
  simp [State.taken, h.contexts, h.windows]

theorem Churned.churn {s : State Nat} {n : Nat} (h : Churned s n) (hn : n + 1 < 2^32) :
    ∃ t, run step s churn = some t ∧ Churned t (n + 1) := by
  have counter : s.sNextHandle + 1 = UInt32.ofNat (n + 1) := by
    rw [h.counter, UInt32.ofNat_add]
    rfl
  have nonzero : s.sNextHandle + 1 ≠ 0 := by
    rw [counter]
    intro zero
    have nat := congrArg UInt32.toNat zero
    rw [UInt32.toNat_ofNat_of_lt' hn] at nat
    cases nat
  have id : s.genHandle = some (s.sNextHandle + 1) := genHandle_next (by simp [h.taken, nonzero])
  refine ⟨(s.addRenderContext 0 (s.sNextHandle + 1)).drainRenderContext 0, ?_, ?_⟩
  · simp [Renderer.churn, run, step, State.createRenderContext, id]
  · have kept : (s.addRenderContext 0 (s.sNextHandle + 1)).mContextSet 0 = [s.sNextHandle + 1] := by
      simp [State.addRenderContext, h.contextSet, setInsert]
    rw [drainRenderContext_eq, kept]
    refine ⟨counter, ?_, h.windows, ?_, h.colorbuffers⟩
    · apply eq_empty_iff.mpr
      intro k
      dsimp only [State.addRenderContext]
      rw [lookup_eraseAll, h.contexts]
      split_ifs with hk
      · rfl
      · rw [AList.lookup_insert_ne (by simpa using hk), AList.lookup_empty]
    · dsimp only
      rw [Function.update_self]

theorem Churned.run {s : State Nat} {n : Nat} (h : Churned s n) (k : Nat) (hk : n + k < 2^32) :
    ∃ t, run step s (List.replicate k Renderer.churn).flatten = some t ∧ Churned t (n + k) := by
  induction k generalizing s n with
  | zero => exact ⟨s, rfl, h⟩
  | succ k ih =>
    obtain ⟨t, ht, next⟩ := h.churn (by omega)
    obtain ⟨u, hu, last⟩ := ih next (by omega)
    refine ⟨u, ?_, by rwa [Nat.add_assoc, Nat.add_comm 1] at last⟩
    rw [List.replicate_succ, List.flatten_cons, run_append, ht]
    exact hu

/-- The counter has gone around and comes to the color buffer again. -/
theorem Churned.meets {s : State Nat} (h : Churned s (2^32 - 1)) : s.genHandle = some 1 := by
  have counter : s.sNextHandle = 4294967295 := h.counter
  refine search_eq_some.mpr ⟨1, by decide, ?_, by simp [h.taken], ?_⟩
  · rw [iterate_succ, counter]
    rfl
  · intro j hj
    obtain rfl : j = 0 := by omega
    rw [iterate_succ, counter, h.taken]
    rfl

/-- Color buffer 1, then 2^32 - 2 contexts one after the other, then another color buffer. -/
theorem handle_repeats_after_wrap :
    ¬ ∀ as : List (Action Nat), Along step Fresh init as ∧ Always step Disjoint init as := by
  intro unique
  have first : ∃ s : State Nat, step init (.createColorBuffer true) = some s ∧ Churned s 1 :=
    ⟨_, rfl, rfl, rfl, rfl, rfl, rfl⟩
  obtain ⟨s, hs, start⟩ := first
  obtain ⟨t, ht, around⟩ := start.run (2^32 - 2) (by decide)
  have fresh := (unique (.createColorBuffer true ::
    ((List.replicate (2^32 - 2) churn).flatten ++ [.createColorBuffer true]))).1
  have last := (fresh s hs).2.append ht
  have meets := around.meets
  have created : step t (.createColorBuffer true) = some (t.addColorBuffer 1) := by
    simp [step, State.createColorBuffer, meets]
  have unused := ((last _ created).1 rfl 1 _ meets created).1.colorbuffers
  have live := around.colorbuffers
  rw [unused] at live
  cases live

end Anbox.Graphics.Renderer
