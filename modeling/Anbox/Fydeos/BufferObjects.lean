import Anbox.Framework.Names
import Anbox.Fydeos.BufferPool
import Mathlib.Algebra.Order.BigOperators.Group.Finset

namespace Anbox.Fydeos.BufferObjects

open Anbox.Framework
open Anbox.Graphics (Rect)
open WaylandWindow (DequeueBuffer_outcome)

/-- The names that were generated for buffers and not deleted. -/
structure Gl where
  textures : Finset Nat
  framebuffers : Finset Nat
  images : Finset Nat

/-- A name that is generated is not zero and not in use; an image of zero was not created. -/
def Gl.call (g : Gl) : GlCall → Option Gl
  | .eglCreateImageKHR image =>
    if image = 0 then some g
    else if image ∈ g.images then none else some { g with images := insert image g.images }
  | .glGenTextures texture =>
    if texture = 0 ∨ texture ∈ g.textures then none
    else some { g with textures := insert texture g.textures }
  | .glGenFramebuffers fbo =>
    if fbo = 0 ∨ fbo ∈ g.framebuffers then none
    else some { g with framebuffers := insert fbo g.framebuffers }
  | .glDeleteTextures texture => some { g with textures := g.textures.erase texture }
  | .glDeleteFramebuffers fbo => some { g with framebuffers := g.framebuffers.erase fbo }
  | .eglDestroyImageKHR image => some { g with images := g.images.erase image }

def Gl.replay : Gl → List GlCall → Option Gl := run Gl.call

structure State (ω : Type*) where
  pools : ω → BufferPool.State
  gl : Gl
  crashed : Bool

def init {ω : Type*} (rects : ω → Rect) : State ω where
  pools := fun w => BufferPool.init (rects w)
  gl := ⟨∅, ∅, ∅⟩
  crashed := false

inductive Action (ω : Type*) where
  | bindWindowLocked (w : ω) (bos : Nat → Option BufferObject) (texture fbo : Nat)
  | unbindLocked (w : ω) (i : Nat)
  | release (w : ω) (i : Nat)
  | boundsChanged (w : ω) (x y width height : Int)

variable {ω : Type*}

section

variable [DecidableEq ω]

def State.set (s : State ω) (w : ω) (pool : BufferPool.State) : State ω :=
  { s with pools := Function.update s.pools w pool }

/-- The names of the frame are written over those of the buffer. -/
def State.bindWindowLocked (s : State ω) (w : ω) (bos : Nat → Option BufferObject) (texture fbo : Nat) :
    Option (State ω) :=
  match (s.pools w).bind bos with
  | none => none
  | some (none, pool) => some { s.set w pool with crashed := true }
  | some (some (i, calls), pool) =>
    (s.gl.replay (calls ++ [.glGenTextures texture, .glGenFramebuffers fbo])).map fun gl =>
      { s.set w { pool with window := pool.window.setNames i texture fbo } with gl }

def step (s : State ω) (a : Action ω) : Option (State ω) :=
  if s.crashed then none
  else
    match a with
    | .bindWindowLocked w bos texture fbo => s.bindWindowLocked w bos texture fbo
    | .unbindLocked w i => (BufferPool.step (s.pools w) (.unbind i)).map (s.set w)
    | .release w i => (BufferPool.step (s.pools w) (.release i)).map (s.set w)
    | .boundsChanged w x y width height =>
      (BufferPool.step (s.pools w) (.boundsChanged x y width height)).map (s.set w)

end

/-- The name that a buffer of a window has in its `BufferExt`. -/
def State.recorded (s : State ω) (name : BufferExt → Nat) (k : ω × Nat) : Option Nat :=
  ((s.pools k.1).window.ext k.2).map name

/-- Each live name is recorded in one buffer, and there are no more of them than buffers. -/
structure Accounted (s : State ω) (name : BufferExt → Nat) (live : Finset Nat) : Prop where
  one : ∀ n ∈ live, ∃! k, s.recorded name k = some n
  bounded : ∀ ws : Finset ω, (∀ w, (s.pools w).window.buffers_.size ≠ 0 → w ∈ ws) →
    live.card ≤ ∑ w ∈ ws, (s.pools w).window.buffers_.size

structure Accounts (s : State ω) : Prop where
  textures : Accounted s BufferExt.texture s.gl.textures
  framebuffers : Accounted s BufferExt.fbo s.gl.framebuffers
  images : Accounted s BufferExt.image s.gl.images

/-- The names of the buffers that a frame discards are deleted, each as what it is, and no others. -/
def Discards (s : State ω) : Action ω → Prop
  | .bindWindowLocked w bos _ _ => ∀ i calls pool,
      (s.pools w).bind bos = some (some (i, calls), pool) →
      let discarded (ext : BufferExt) : Prop := ∃ j, (s.pools w).window.ext j = some ext ∧
        pool.window.ext j = none
      ∀ n, (.glDeleteFramebuffers n ∈ calls ↔ ∃ ext, discarded ext ∧ ext.fbo = n) ∧
        (.glDeleteTextures n ∈ calls ↔ ∃ ext, discarded ext ∧ ext.texture = n) ∧
        (.eglDestroyImageKHR n ∈ calls ↔ ∃ ext, discarded ext ∧ ext.image = n)
  | .unbindLocked .. | .release .. | .boundsChanged .. => True

/-- A frame is drawn into a buffer that is created for it and has no names yet, and none is
discarded. -/
def Regular (s : State ω) : Action ω → Prop
  | .bindWindowLocked w bos _ _ =>
      (s.pools w).window.buffers_.find (s.pools w).window.valid = none ∧
      ∀ bo, bos 0 = some bo →
        bo.planeCount = 1 ∧ bo.framebufferComplete = false ∨
        bo.planeCount ≠ 1 ∧
          ∀ i b, (s.pools w).window.buffers_.lookup i = some b → b.state ≠ .DIRTY
  | .unbindLocked .. | .release .. | .boundsChanged .. => True

/-- The textures and framebuffers are those of the buffers, and there is no image. -/
structure Exact (s : State ω) : Prop where
  textures : Recorded s.gl.textures (s.recorded BufferExt.texture)
  framebuffers : Recorded s.gl.framebuffers (s.recorded BufferExt.fbo)
  images : s.gl.images = ∅

/-- There are no more names than buffers to record them in. -/
theorem accounted {s : State ω} {name : BufferExt → Nat} {live : Finset Nat}
    (h : ∀ n ∈ live, ∃! k, s.recorded name k = some n) : Accounted s name live where
  one := h
  bounded := by
    intro ws covered
    let names (w : ω) : List Nat :=
      (s.pools w).window.buffers_.entries.map fun e => name e.2.ext
    have sub : live ⊆ ws.biUnion fun w => (names w).toFinset := by
      intro n hn
      obtain ⟨k, hk, -⟩ := h n hn
      obtain ⟨e, he, rfl⟩ := Option.map_eq_some_iff.mp hk
      obtain ⟨b, hb, rfl⟩ := Option.map_eq_some_iff.mp he
      have entry := Pool.lookup_eq_some.mp hb
      have filled : (s.pools k.1).window.buffers_.size ≠ 0 :=
        Nat.ne_of_gt (List.length_pos_of_mem entry)
      apply Finset.mem_biUnion.mpr
      exact ⟨k.1, covered k.1 filled, List.mem_toFinset.mpr (List.mem_map.mpr ⟨_, entry, rfl⟩)⟩
    calc live.card ≤ (ws.biUnion fun w => (names w).toFinset).card := Finset.card_le_card sub
      _ ≤ ∑ w ∈ ws, (names w).toFinset.card := Finset.card_biUnion_le
      _ ≤ ∑ w ∈ ws, (s.pools w).window.buffers_.size := by
        apply Finset.sum_le_sum
        intro w _
        exact (List.toFinset_card_le (names w)).trans (List.length_map _).le

theorem Exact.accounts {s : State ω} (h : Exact s) : Accounts s where
  textures := accounted fun _ => h.textures.unique
  framebuffers := accounted fun _ => h.framebuffers.unique
  images := accounted fun n hn => absurd (h.images ▸ hn) (Finset.notMem_empty n)

theorem exact_init (rects : ω → Rect) : Exact (init rects) where
  textures := recorded_empty
  framebuffers := recorded_empty
  images := rfl

theorem Exact.congr {s t : State ω} (h : Exact s) (gl : t.gl = s.gl)
    (recorded : ∀ name, t.recorded name = s.recorded name) : Exact t where
  textures := by
    rw [gl, recorded]
    exact h.textures
  framebuffers := by
    rw [gl, recorded]
    exact h.framebuffers
  images := by
    rw [gl]
    exact h.images

/-- A framebuffer that is live and recorded nowhere is not accounted for. -/
theorem Accounts.not_lost {t : State ω} (h : Accounts t) {n : Nat} (live : n ∈ t.gl.framebuffers)
    (lost : ∀ k, t.recorded BufferExt.fbo k ≠ some n) : False := by
  obtain ⟨k, hk, -⟩ := h.framebuffers.one n live
  exact lost k hk

/-! What the calls do to the names. -/

theorem call_framebuffers {g h : Gl} {call : GlCall} (calls : g.call call = some h)
    (kept : ∀ n, call ≠ .glDeleteFramebuffers n) : g.framebuffers ⊆ h.framebuffers ∧
      ∀ n, call = .glGenFramebuffers n → n ∉ g.framebuffers ∧ n ∈ h.framebuffers := by
  cases call with
  | glGenFramebuffers fbo =>
    simp only [Gl.call] at calls
    split_ifs at calls with used
    rw [← Option.some.inj calls]
    refine ⟨Finset.subset_insert _ _, ?_⟩
    intro n hn
    cases hn
    exact ⟨fun live => used (.inr live), Finset.mem_insert_self _ _⟩
  | glDeleteFramebuffers fbo => exact absurd rfl (kept fbo)
  | eglCreateImageKHR | glGenTextures =>
    simp only [Gl.call] at calls
    split_ifs at calls <;> exact Option.some.inj calls ▸ ⟨Finset.Subset.refl _, nofun⟩
  | glDeleteTextures | eglDestroyImageKHR =>
    exact Option.some.inj calls ▸ ⟨Finset.Subset.refl _, nofun⟩

/-- A framebuffer that no call deletes stays live, and one that is generated was not. -/
theorem replay_framebuffers {g h : Gl} {calls : List GlCall} (replays : g.replay calls = some h)
    (kept : ∀ n, .glDeleteFramebuffers n ∉ calls) : g.framebuffers ⊆ h.framebuffers ∧
      ∀ n, .glGenFramebuffers n ∈ calls → n ∉ g.framebuffers ∧ n ∈ h.framebuffers := by
  induction calls generalizing g with
  | nil => exact Option.some.inj replays ▸ ⟨Finset.Subset.refl _, by simp⟩
  | cons call calls ih =>
    obtain ⟨g', first, rest⟩ := run_cons replays
    have one := call_framebuffers first fun n hn => kept n (hn ▸ List.mem_cons_self)
    have others := ih rest fun n hn => kept n (List.mem_cons_of_mem _ hn)
    refine ⟨one.1.trans others.1, ?_⟩
    intro n hn
    cases List.mem_cons.mp hn with
    | inl first =>
      obtain ⟨new, live⟩ := one.2 n first.symm
      exact ⟨new, others.1 live⟩
    | inr later =>
      obtain ⟨new, live⟩ := others.2 n later
      exact ⟨fun old => new (one.1 old), live⟩

/-- The names of a frame are new. -/
theorem replay_frame {g h : Gl} {texture fbo : Nat}
    (replays : g.replay [.glGenTextures texture, .glGenFramebuffers fbo] = some h) :
    texture ∉ g.textures ∧ fbo ∉ g.framebuffers ∧
      h = ⟨insert texture g.textures, insert fbo g.framebuffers, g.images⟩ := by
  simp only [Gl.replay, run, Gl.call] at replays
  split_ifs at replays with ht <;> simp only [Option.bind_some, Option.bind_none] at replays
  · cases replays
  · split_ifs at replays with hf
    · cases replays
    · exact ⟨fun live => ht (.inr live), fun live => hf (.inr live),
        (Option.some.inj replays).symm⟩

/-! Where the names are recorded. -/

variable [DecidableEq ω]

section

variable {s : State ω} {w : ω} {name : BufferExt → Nat}

theorem recorded_set (s : State ω) (w : ω) (pool : BufferPool.State) (name : BufferExt → Nat)
    (k : ω × Nat) : (s.set w pool).recorded name k =
      if k.1 = w then (pool.window.ext k.2).map name else s.recorded name k := by
  simp only [State.recorded, State.set]
  split_ifs with hk
  · rw [hk, Function.update_self]
  · rw [Function.update_of_ne hk]

/-- The names of a window that stay in its buffers stay recorded. -/
theorem recorded_kept {pool : BufferPool.State}
    (kept : ∀ i, pool.window.ext i = (s.pools w).window.ext i) :
    (s.set w pool).recorded name = s.recorded name := by
  funext k
  rw [recorded_set]
  split_ifs with hk
  · rw [kept, State.recorded, hk]
  · rfl

theorem recorded_setNames {pool : BufferPool.State} {i texture fbo : Nat} {e : BufferExt}
    (h : pool.window.ext i = some e) (k : ω × Nat) :
    (s.set w { pool with window := pool.window.setNames i texture fbo }).recorded name k =
      if k = (w, i) then some (name { e with texture, fbo }) else (s.set w pool).recorded name k := by
  rw [recorded_set, recorded_set]
  simp only [WaylandWindow.ext_setNames, Prod.ext_iff]
  by_cases hw : k.1 = w
  · by_cases hi : k.2 = i
    · simp [hw, hi, h]
    · simp [hw, hi]
  · simp [hw]

end

/-- What the compositor and the resizes do leaves the names of a pool as they are. -/
theorem pool_kept {p q : BufferPool.State} {a : BufferPool.Action} (h : BufferPool.step p a = some q)
    (other : ∀ bos, a ≠ .bind bos) (i : Nat) : q.window.ext i = p.window.ext i := by
  unfold BufferPool.step at h
  split_ifs at h
  cases a with
  | bind bos => exact absurd rfl (other bos)
  | unbind j =>
    simp only at h
    split_ifs at h
    rw [← Option.some.inj h]
  | release j =>
    simp only at h
    split_ifs at h
    rw [← Option.some.inj h]
    exact p.window.ext_release j i
  | boundsChanged x y width height => exact Option.some.inj h ▸ rfl

theorem Exact.pool {s t : State ω} (h : Exact s) {w : ω} {a : BufferPool.Action}
    (other : ∀ bos, a ≠ .bind bos)
    (ht : (BufferPool.step (s.pools w) a).map (s.set w) = some t) : Exact t := by
  obtain ⟨pool, hpool, rfl⟩ := Option.map_eq_some_iff.mp ht
  exact h.congr rfl fun _ => recorded_kept (pool_kept hpool other)

/-- A frame is drawn into a buffer that is created without names, next to clean ones. -/
theorem Exact.frame {s : State ω} (h : Exact s) {w : ω} {texture fbo : Nat} {gl : Gl}
    {pool : BufferPool.State} {i : Nat} {e : BufferExt} (new : (s.pools w).window.ext i = none)
    (at_ : pool.window.ext i = some e)
    (others : ∀ j, j ≠ i → pool.window.ext j = (s.pools w).window.ext j)
    (replays : s.gl.replay [.glGenTextures texture, .glGenFramebuffers fbo] = some gl) :
    Exact { s.set w { pool with window := pool.window.setNames i texture fbo } with gl } := by
  obtain ⟨ht, hf, rfl⟩ := replay_frame replays
  have absent (name : BufferExt → Nat) : s.recorded name (w, i) = none := by
    rw [State.recorded, new]
    rfl
  have kept (name : BufferExt → Nat) (l : ω × Nat) (ne : l ≠ (w, i)) :
      (s.set w { pool with window := pool.window.setNames i texture fbo }).recorded name l =
        s.recorded name l := by
    rw [recorded_setNames at_, if_neg ne, recorded_set]
    split_ifs with hw
    · have hi : l.2 ≠ i := fun hi => ne (Prod.ext hw hi)
      rw [others l.2 hi, State.recorded, hw]
    · rfl
  constructor
  · exact h.textures.record ht (absent _)
      ((recorded_setNames at_ (w, i)).trans (if_pos rfl)) (kept _)
  · exact h.framebuffers.record hf (absent _)
      ((recorded_setNames at_ (w, i)).trans (if_pos rfl)) (kept _)
  · exact h.images

omit [DecidableEq ω] in
theorem regular_made {s : State ω} {w : ω} {bos : Nat → Option BufferObject} {texture fbo : Nat}
    {ext : BufferExt} {calls : List GlCall}
    (regular : Regular s (.bindWindowLocked w bos texture fbo))
    (made : (s.pools w).window.created (bos 0) =
      .ok (some ((s.pools w).window.newBuffer .IDLE ext, calls))) :
    ext = ⟨0, 0, 0⟩ ∧ calls = [] ∧
      ∀ i b, (s.pools w).window.buffers_.lookup i = some b → b.state ≠ .DIRTY := by
  obtain ⟨bo, hbo, created⟩ := WaylandWindow.created_ok made
  cases regular.2 bo hbo with
  | inl stops =>
    rw [hbo, WaylandWindow.created_incomplete _ stops.1 (by simp [stops.2])] at made
    cases made
  | inr regular =>
    obtain ⟨-, none, empty⟩ := created.resolve_right fun plane => regular.1 plane.1
    exact ⟨none, empty, regular.2⟩

theorem step_exact {s t : State ω} {a : Action ω} (h : Exact s) (regular : Regular s a)
    (ht : step s a = some t) : Exact t := by
  unfold step at ht
  split_ifs at ht
  cases a with
  | bindWindowLocked w bos texture fbo =>
    obtain ⟨reply, bind, bound⟩ := (s.pools w).bind_bound bos
    simp only [State.bindWindowLocked, bind] at ht
    cases bound with
    | found found =>
      rw [regular.1] at found
      cases found
    | stopped absent stopped =>
      have kept (name : BufferExt → Nat) :
          (s.set w { s.pools w with crashed := true }).recorded name = s.recorded name :=
        recorded_kept fun _ => rfl
      exact Option.some.inj ht ▸ h.congr rfl kept
    | @made ext calls absent made =>
      obtain ⟨gl, replays, rfl⟩ := Option.map_eq_some_iff.mp ht
      obtain ⟨rfl, rfl, clean⟩ := regular_made regular made
      rw [WaylandWindow.deleted_clean clean] at replays
      apply h.frame (s.pools w).window.ext_next (e := ⟨0, 0, 0⟩) _ _ replays
      · exact WaylandWindow.ext_replaceDirty.mpr (.inl ⟨rfl, rfl⟩)
      · exact fun j hj => WaylandWindow.ext_replace_clean clean hj _
  | unbindLocked w i => exact h.pool (fun _ same => by cases same) ht
  | release w i => exact h.pool (fun _ same => by cases same) ht
  | boundsChanged w x y width height => exact h.pool (fun _ same => by cases same) ht

theorem deletes_no_framebuffer (w : WaylandWindow) (n : Nat) :
    .glDeleteFramebuffers n ∉ w.deleted := by
  simp [WaylandWindow.deleted, deleteFydeBuffer]

/-- The frame's framebuffer is none of those that were live before, and they stay live. -/
theorem replay_bind {g h : Gl} {calls : List GlCall} {texture fbo : Nat}
    (replays : g.replay (calls ++ [.glGenTextures texture, .glGenFramebuffers fbo]) = some h)
    (kept : ∀ n, .glDeleteFramebuffers n ∉ calls) :
    (∀ n ∈ g.framebuffers, n ∈ h.framebuffers ∧ n ≠ fbo) ∧
      ∀ n, .glGenFramebuffers n ∈ calls →
        n ∉ g.framebuffers ∧ n ∈ h.framebuffers ∧ n ≠ fbo := by
  rw [Gl.replay, run_append] at replays
  obtain ⟨mid, before, frame⟩ := Option.bind_eq_some_iff.mp replays
  obtain ⟨old, generated⟩ := replay_framebuffers before kept
  obtain ⟨-, new, rfl⟩ := replay_frame frame
  have stays {n : Nat} (hn : n ∈ mid.framebuffers) :
      n ∈ insert fbo mid.framebuffers ∧ n ≠ fbo :=
    ⟨Finset.mem_insert_of_mem hn, fun same => new (same ▸ hn)⟩
  constructor
  · exact fun n hn => stays (old hn)
  · intro n hn
    obtain ⟨absent, live⟩ := generated n hn
    exact ⟨absent, stays live⟩

/-- What is recorded after a frame, its own framebuffer apart, was recorded before. -/
theorem recorded_before {s : State ω} {w : ω} {texture fbo n : Nat} {pool : BufferPool.State}
    {i : Nat} {e : BufferExt} (at_ : pool.window.ext i = some e) (other : n ≠ fbo)
    (others : ∀ j d, j ≠ i → pool.window.ext j = some d → (s.pools w).window.ext j = some d)
    {k : ω × Nat} (hk : (s.set w { pool with
      window := pool.window.setNames i texture fbo }).recorded BufferExt.fbo k = some n) :
    k ≠ (w, i) ∧ s.recorded BufferExt.fbo k = some n ∧
      (k.1 = w → ∃ d, pool.window.ext k.2 = some d) := by
  rw [recorded_setNames at_] at hk
  split_ifs at hk with same
  · exact absurd (Option.some.inj hk).symm other
  · refine ⟨same, ?_⟩
    rw [recorded_set] at hk
    split_ifs at hk with hw
    · obtain ⟨d, hd, hn⟩ := Option.map_eq_some_iff.mp hk
      have hi : k.2 ≠ i := fun hi => same (Prod.ext hw hi)
      have before := others k.2 d hi hd
      refine ⟨?_, fun _ => ⟨d, hd⟩⟩
      rw [State.recorded, hw, before]
      exact congrArg some hn
    · exact ⟨hk, fun here => absurd here hw⟩

/-- A buffer that had names is not written over and not discarded. -/
theorem Exact.not_lost {s : State ω} (h : Exact s) {w : ω} {calls : List GlCall}
    {texture fbo : Nat} {gl : Gl} {pool : BufferPool.State} {i j : Nat} {e : BufferExt} {b : Buffer}
    (hb : (s.pools w).window.buffers_.lookup j = some b)
    (gone : j = i ∨ pool.window.ext j = none) (at_ : pool.window.ext i = some e)
    (others : ∀ j d, j ≠ i → pool.window.ext j = some d → (s.pools w).window.ext j = some d)
    (replays : s.gl.replay (calls ++ [.glGenTextures texture, .glGenFramebuffers fbo]) = some gl)
    (kept : ∀ n, .glDeleteFramebuffers n ∉ calls)
    (accounts : Accounts
      { s.set w { pool with window := pool.window.setNames i texture fbo } with gl }) : False := by
  have was : s.recorded BufferExt.fbo (w, j) = some b.ext.fbo := by
    rw [State.recorded, WaylandWindow.ext_of_lookup hb]
    rfl
  have live := (h.framebuffers.mem _).mpr ⟨_, was⟩
  obtain ⟨stays, other⟩ := (replay_bind replays kept).1 _ live
  apply accounts.not_lost stays
  intro k hk
  obtain ⟨ne, before, there⟩ := recorded_before at_ other others hk
  obtain rfl := h.framebuffers.one _ _ _ before was
  cases gone with
  | inl same => exact ne (Prod.ext rfl same)
  | inr gone =>
    obtain ⟨d, hd⟩ := there rfl
    rw [gone] at hd
    cases hd

/-- The names that a buffer is created with are written over by the first frame. -/
theorem Exact.not_created {s : State ω} (h : Exact s) {w : ω} {calls : List GlCall}
    {texture fbo : Nat} {gl : Gl} {pool : BufferPool.State} {i n : Nat} {e : BufferExt}
    (at_ : pool.window.ext i = some e)
    (others : ∀ j d, j ≠ i → pool.window.ext j = some d → (s.pools w).window.ext j = some d)
    (replays : s.gl.replay (calls ++ [.glGenTextures texture, .glGenFramebuffers fbo]) = some gl)
    (kept : ∀ n, .glDeleteFramebuffers n ∉ calls) (generated : .glGenFramebuffers n ∈ calls)
    (accounts : Accounts
      { s.set w { pool with window := pool.window.setNames i texture fbo } with gl }) : False := by
  obtain ⟨new, stays, other⟩ := (replay_bind replays kept).2 n generated
  apply accounts.not_lost stays
  intro k hk
  obtain ⟨-, before, -⟩ := recorded_before at_ other others hk
  exact new ((h.framebuffers.mem n).mpr ⟨k, before⟩)

theorem step_back {s t : State ω} {a : Action ω} (h : Exact s) (ht : step s a = some t)
    (accounts : Accounts t) : Regular s a := by
  unfold step at ht
  split_ifs at ht
  cases a with
  | bindWindowLocked w bos texture fbo =>
    obtain ⟨reply, bind, bound⟩ := (s.pools w).bind_bound bos
    simp only [State.bindWindowLocked, bind] at ht
    cases bound with
    | @found i found =>
      obtain ⟨b, hb, -⟩ := Pool.find_some found
      obtain ⟨gl, replays, rfl⟩ := Option.map_eq_some_iff.mp ht
      have ext (j : Nat) := (s.pools w).window.ext_setState i j .BUSY
      have at_ := (ext i).trans (WaylandWindow.ext_of_lookup hb)
      have others (j : Nat) (d : BufferExt) (_ : j ≠ i)
          (hd : ((s.pools w).window.setState i .BUSY).ext j = some d) := (ext j).symm.trans hd
      exact (h.not_lost hb (.inl rfl) at_ others replays (by simp) accounts).elim
    | stopped absent stopped =>
      refine ⟨absent, fun bo hbo => .inl ?_⟩
      rw [hbo] at stopped
      obtain ⟨bo', same, plane⟩ :=
        WaylandWindow.created_breakpoint stopped (WaylandWindow.created_some stopped)
      exact Option.some.inj same ▸ plane
    | @made ext calls absent made =>
      obtain ⟨gl, replays, rfl⟩ := Option.map_eq_some_iff.mp ht
      obtain ⟨bo, hbo, created⟩ := WaylandWindow.created_ok made
      have at_ : ((s.pools w).window.replaceDirty ((s.pools w).window.newBuffer .BUSY ext)).ext
          (s.pools w).window.buffers_.next = some ext :=
        WaylandWindow.ext_replaceDirty.mpr (.inl ⟨rfl, rfl⟩)
      have others (j : Nat) (d : BufferExt) (hj : j ≠ (s.pools w).window.buffers_.next)
          (hd : ((s.pools w).window.replaceDirty
            ((s.pools w).window.newBuffer .BUSY ext)).ext j = some d) :=
        WaylandWindow.ext_of_replaceDirty hj hd
      refine ⟨absent, fun bo' hbo' => .inr ?_⟩
      obtain rfl : bo = bo' := Option.some.inj (hbo.symm.trans hbo')
      cases created with
      | inl created =>
        obtain ⟨planes, -, rfl⟩ := created
        refine ⟨planes, ?_⟩
        intro i b hb dirty
        exact h.not_lost hb (.inr (WaylandWindow.ext_replace_gone hb dirty)) at_ others replays
          (deletes_no_framebuffer _) accounts
      | inr created =>
        obtain ⟨-, -, rfl⟩ := created
        refine (h.not_created (n := bo.fbo) at_ others replays ?_ (by simp) accounts).elim
        intro n hn
        cases List.mem_append.mp hn with
        | inl hn => simp at hn
        | inr hn => exact deletes_no_framebuffer _ n hn
  | unbindLocked w i => trivial
  | release w i => trivial
  | boundsChanged w x y width height => trivial

omit [DecidableEq ω] in
/-- Where no dirty buffer is discarded, no name is deleted. -/
theorem regular_discards {s : State ω} {a : Action ω} (regular : Regular s a) : Discards s a := by
  cases a with
  | bindWindowLocked w bos texture fbo =>
    intro i calls pool hbind
    obtain ⟨reply, bind, bound⟩ := (s.pools w).bind_bound bos
    rw [hbind] at bind
    obtain rfl := Option.some.inj bind
    cases bound with
    | found found =>
      rw [regular.1] at found
      cases found
    | made absent made =>
      obtain ⟨-, rfl, clean⟩ := regular_made regular made
      rw [WaylandWindow.deleted_clean clean]
      have none (buffer : Buffer) (e : BufferExt) : ¬ ∃ j, (s.pools w).window.ext j = some e ∧
          ((s.pools w).window.replaceDirty buffer).ext j = none := by
        intro ⟨j, there, gone⟩
        have old : j ≠ (s.pools w).window.buffers_.next :=
          Nat.ne_of_lt (WaylandWindow.ext_lt there)
        rw [WaylandWindow.ext_replace_clean clean old, there] at gone
        cases gone
      simp [none]
  | unbindLocked | release | boundsChanged => trivial

/-- In every run, the names are accounted for exactly when each frame is drawn into a buffer that is
created for it without names, and no buffer is ever discarded. -/
theorem names_accounted_iff (rects : ω → Rect) (as : List (Action ω)) :
    Always step Accounts (init rects) as ∧ Along step Discards (init rects) as ↔
      Along step Regular (init rects) as := by
  have accounts : Always step Accounts (init rects) as ↔ Along step Regular (init rects) as :=
    always_iff_along (fun _ h => h.accounts) (fun _ _ _ => step_exact) (fun _ _ _ => step_back) as
      (exact_init rects)
  constructor
  · intro h
    exact accounts.mp h.1
  · intro h
    exact ⟨accounts.mpr h, h.mono fun _ _ => regular_discards⟩

/-- A window is attached. -/
def attached : List (Action Unit) :=
  [.bindWindowLocked () (fun _ => some ⟨1, 1, 1, 1, true⟩) 2 2]

/-- The texture and the framebuffer that the buffer was created with are nowhere recorded. -/
theorem first_frame_loses : ¬ ∀ as : List (Action Unit),
    Always step Accounts (init fun _ => ⟨0, 0, 10, 10⟩) as ∧
      Along step Discards (init fun _ => ⟨0, 0, 10, 10⟩) as := by
  intro h
  obtain ⟨t, ht⟩ : ∃ t, run step (init fun _ => ⟨0, 0, 10, 10⟩) attached = some t := ⟨_, rfl⟩
  have accounts := (h attached).1.last ht
  obtain rfl := Option.some.inj ht
  obtain ⟨k, hk, -⟩ := accounts.framebuffers.one 1 (by decide)
  obtain ⟨w, i⟩ := k
  cases i with
  | zero => cases hk
  | succ i => cases hk

end Anbox.Fydeos.BufferObjects
