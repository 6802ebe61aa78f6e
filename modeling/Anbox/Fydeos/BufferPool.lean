import Anbox.Framework.Run
import Anbox.Fydeos.WaylandWindow

namespace Anbox.Fydeos.BufferPool

open Anbox.Framework
open Anbox.Graphics (Rect)
open WaylandWindow (DequeueBuffer DequeueBuffer_outcome)

/-- Who has a buffer: nobody, the renderer that draws into it, or the compositor. -/
inductive Use where
  | free
  | handed
  | attached
  deriving DecidableEq

structure State where
  window : WaylandWindow
  use : Nat → Use
  crashed : Bool

def init (rect : Rect) : State where
  window := ⟨.empty, rect⟩
  use := fun _ => .free
  crashed := false

inductive Action where
  | bind (bos : Nat → Option BufferObject)
  | unbind (i : Nat)
  | release (i : Nat)
  | boundsChanged (x y width height : Int)

/-- Two calls of `DequeueBuffer` are enough. The caller writes to the buffer, also when there is
none. -/
def State.bind (s : State) (bos : Nat → Option BufferObject) :
    Option (Option (Nat × List GlCall) × State) :=
  match DequeueBuffer 2 bos s.window with
  | none => none
  | some (.ok ⟨some i, window, calls⟩) =>
    some (some (i, calls), { s with window, use := Function.update s.use i .handed })
  | some (.ok ⟨none, _, _⟩) | some (.error _) => some (none, { s with crashed := true })

/-- The compositor has the buffers that were attached, and releases each of them when it likes. -/
def step (s : State) (a : Action) : Option State :=
  if s.crashed then none
  else
    match a with
    | .bind bos => (s.bind bos).map Prod.snd
    | .unbind i =>
      if s.use i = .handed then some { s with use := Function.update s.use i .attached } else none
    | .release i =>
      if s.use i = .attached then
        some { s with window := s.window.release i, use := Function.update s.use i .free }
      else none
    | .boundsChanged x y width height =>
      some { s with window := s.window.shellSurfaceBoundsChanged x y width height }

/-- What a call of `bind` comes to. -/
inductive Bound (s : State) (bo : Option BufferObject) :
    Option (Nat × List GlCall) × State → Prop
  | found {i : Nat} (found : s.window.buffers_.find s.window.valid = some i) :
    Bound s bo (some (i, []), { s with
      window := s.window.setState i .BUSY
      use := Function.update s.use i .handed })
  | stopped {fault : Fault} (absent : s.window.buffers_.find s.window.valid = none)
      (stopped : s.window.created bo = .error fault) : Bound s bo (none, { s with crashed := true })
  | made {ext : BufferExt} {calls : List GlCall}
      (absent : s.window.buffers_.find s.window.valid = none)
      (made : s.window.created bo = .ok (some (s.window.newBuffer .IDLE ext, calls))) :
    Bound s bo (some (s.window.buffers_.next, calls ++ s.window.deleted), { s with
      window := s.window.replaceDirty (s.window.newBuffer .BUSY ext)
      use := Function.update s.use s.window.buffers_.next .handed })

theorem State.bind_bound (s : State) (bos : Nat → Option BufferObject) :
    ∃ reply, s.bind bos = some reply ∧ Bound s (bos 0) reply := by
  obtain ⟨result, returns, outcome⟩ := DequeueBuffer_outcome s.window bos
  have dequeued := returns 2 (Nat.le_refl 2)
  cases outcome with
  | found found => exact ⟨_, by rw [State.bind, dequeued], .found found⟩
  | stopped absent stopped => exact ⟨_, by rw [State.bind, dequeued], .stopped absent stopped⟩
  | made absent made => exact ⟨_, by rw [State.bind, dequeued], .made absent made⟩

/-- What is asked of a buffer that is dequeued, and of the pool where it had to be created. -/
structure Sound (s : State) (d : Dequeued) : Prop where
  unused : ∃ i, d.buffer = some i ∧ s.use i = .free ∧
    ∀ b, s.window.buffers_.lookup i = some b → b.state ≠ .BUSY
  sized : ∃ i b, d.buffer = some i ∧ d.window.buffers_.lookup i = some b ∧
    s.window.fits b = true
  no_stale : s.window.buffers_.find s.window.valid = none → ∀ i b,
    d.window.buffers_.lookup i = some b → b.state = .IDLE ∨ b.state = .DIRTY →
      s.window.fits b = true
  bounded : s.window.buffers_.find s.window.valid = none → d.window.buffers_.size ≤
    d.window.buffers_.count (fun b => decide (b.state = .BUSY)) +
      d.window.buffers_.count s.window.fits

/-- The call returns, however deep it may recur, and uses no buffer that was not created. -/
def Safe (s : State) : Action → Prop
  | .bind bos => ∃ result, (∀ n, 2 ≤ n → DequeueBuffer n bos s.window = some result) ∧
      result ≠ .error .nullPointer ∧ ∀ d, result = .ok d → Sound s d
  | .unbind _ | .release _ | .boundsChanged .. => True

/-- Where no idle buffer has the size of the window, one is created, and then no idle buffer of
another size is left behind. -/
def Regular (s : State) : Action → Prop
  | .bind bos => s.window.buffers_.find s.window.valid = none →
      ∃ bo, bos 0 = some bo ∧ (bo.planeCount = 1 ∧ bo.framebufferComplete = false ∨
        ∀ i b, s.window.buffers_.lookup i = some b → b.state ≠ .IDLE)
  | .unbind _ | .release _ | .boundsChanged .. => True

/-- Somebody has each of the buffers in use, and they are busy. -/
structure Held (s : State) : Prop where
  free : ∀ i b, s.window.buffers_.lookup i = some b → b.state ≠ .BUSY → s.use i = .free
  new : ∀ i, s.window.buffers_.next ≤ i → s.use i = .free
  formed : ∀ i b, s.window.buffers_.lookup i = some b → b.state ≠ .NONE

theorem held_init (rect : Rect) : Held (init rect) where
  free := fun _ _ h => by cases h
  new := fun _ _ => rfl
  formed := fun _ _ h => by cases h

/-- A buffer is handed out, and the state of no other buffer is another. -/
theorem Held.hand {s : State} (h : Held s) {w : WaylandWindow} {i : Nat}
    (next : s.window.buffers_.next ≤ w.buffers_.next) (below : i < w.buffers_.next)
    (busy : ∀ b, w.buffers_.lookup i = some b → b.state = .BUSY)
    (kept : ∀ j b, j ≠ i → w.buffers_.lookup j = some b → s.window.buffers_.lookup j = some b) :
    Held { s with window := w, use := Function.update s.use i .handed } where
  free := by
    intro j b hb idle
    by_cases hj : j = i
    · subst hj
      exact absurd (busy b hb) idle
    · exact (Function.update_of_ne hj _ _).trans (h.free j b (kept j b hj hb) idle)
  new := by
    intro j hj
    have ne : j ≠ i := Nat.ne_of_gt (Nat.lt_of_lt_of_le below hj)
    exact (Function.update_of_ne ne _ _).trans (h.new j (Nat.le_trans next hj))
  formed := by
    intro j b hb
    by_cases hj : j = i
    · subst hj
      rw [busy b hb]
      decide
    · exact h.formed j b (kept j b hj hb)

/-- A buffer that somebody has passes to another. -/
theorem Held.pass {s : State} (h : Held s) {i : Nat} (taken : s.use i ≠ .free) (use : Use) :
    Held { s with use := Function.update s.use i use } where
  free := by
    intro j b hb idle
    have free := h.free j b hb idle
    have ne : j ≠ i := fun same => taken (same ▸ free)
    exact (Function.update_of_ne ne _ _).trans free
  new := by
    intro j hj
    have free := h.new j hj
    have ne : j ≠ i := fun same => taken (same ▸ free)
    exact (Function.update_of_ne ne _ _).trans free
  formed := h.formed

/-- A buffer that is released is idle or dirty, and nobody has it. -/
theorem Held.released {s : State} (h : Held s) (i : Nat) :
    Held { s with window := s.window.release i, use := Function.update s.use i .free } where
  free := by
    intro j b hb idle
    by_cases hj : j = i
    · exact hj ▸ Function.update_self _ _ _
    · obtain ⟨c, hc, rfl⟩ := Pool.lookup_modify.mp hb
      rw [if_neg hj] at idle
      exact (Function.update_of_ne hj _ _).trans (h.free j c hc idle)
  new := by
    intro j hj
    by_cases hi : j = i
    · exact hi ▸ Function.update_self _ _ _
    · exact (Function.update_of_ne hi _ _).trans (h.new j hj)
  formed := by
    intro j b hb
    obtain ⟨c, hc, rfl⟩ := Pool.lookup_modify.mp hb
    split_ifs
    · simp
    · simp
    · exact h.formed j c hc

theorem step_held {s t : State} {a : Action} (h : Held s) (ht : step s a = some t) : Held t := by
  unfold step at ht
  split_ifs at ht
  cases a with
  | bind bos =>
    obtain ⟨reply, bind, bound⟩ := s.bind_bound bos
    simp only [bind, Option.map_some] at ht
    cases bound with
    | @found i found =>
      obtain ⟨c, hc, -⟩ := Pool.find_some found
      have below : i < s.window.buffers_.next := Pool.lookup_lt hc
      rw [← Option.some.inj ht]
      apply h.hand (w := s.window.setState i .BUSY) (Nat.le_refl _) below
      · intro b hb
        obtain ⟨c, -, rfl⟩ := Pool.lookup_modify.mp hb
        rw [if_pos rfl]
      · intro j b hj hb
        obtain ⟨c, hc, rfl⟩ := Pool.lookup_modify.mp hb
        rwa [if_neg hj]
    | stopped => exact Option.some.inj ht ▸ ⟨h.free, h.new, h.formed⟩
    | made =>
      rw [← Option.some.inj ht]
      apply h.hand (w := s.window.replaceDirty _) (Nat.le_succ _) (Nat.lt_succ_self _)
      · intro b hb
        cases WaylandWindow.lookup_replaceDirty.mp hb with
        | inl new => exact new.2 ▸ rfl
        | inr old => exact absurd (Pool.lookup_lt old.1) (Nat.lt_irrefl _)
      · intro j b hj hb
        exact (WaylandWindow.lookup_replaceDirty.mp hb).elim (fun new => absurd new.1 hj) And.left
  | unbind i =>
    simp only at ht
    split_ifs at ht with handed
    exact Option.some.inj ht ▸ h.pass (by simp [handed]) .attached
  | release i =>
    simp only at ht
    split_ifs at ht
    exact Option.some.inj ht ▸ h.released i
  | boundsChanged x y width height => exact Option.some.inj ht ▸ ⟨h.free, h.new, h.formed⟩

/-- The valid buffer is handed out as it is. -/
theorem Held.found {s : State} (h : Held s) {i : Nat}
    (found : s.window.buffers_.find s.window.valid = some i) :
    Sound s ⟨some i, s.window.setState i .BUSY, []⟩ := by
  obtain ⟨b, hb, valid⟩ := Pool.find_some found
  rw [WaylandWindow.valid, Bool.and_eq_true, decide_eq_true_iff] at valid
  have idle : b.state ≠ .BUSY := by simp [valid.2]
  constructor
  · refine ⟨i, rfl, h.free i b hb idle, ?_⟩
    intro c hc
    rw [hb] at hc
    exact Option.some.inj hc ▸ idle
  · exact ⟨i, { b with state := .BUSY }, rfl, Pool.lookup_modify.mpr ⟨b, hb, if_pos rfl⟩, valid.1⟩
  · intro absent
    rw [found] at absent
    cases absent
  · intro absent
    rw [found] at absent
    cases absent

/-- Next to the buffer that is created stay the busy ones and the idle ones. -/
theorem Held.made {s : State} (h : Held s) {ext : BufferExt} {calls : List GlCall}
    (absent : s.window.buffers_.find s.window.valid = none) :
    Sound s ⟨some s.window.buffers_.next,
        s.window.replaceDirty (s.window.newBuffer .BUSY ext), calls⟩ ↔
      ∀ i b, s.window.buffers_.lookup i = some b → b.state ≠ .IDLE := by
  constructor
  · intro sound i b hb idle
    have clean : b.state ≠ .DIRTY := by simp [idle]
    have fits := sound.no_stale absent i b (WaylandWindow.lookup_kept hb clean _) (.inl idle)
    have rejected := Pool.find_none.mp absent i b hb
    simp [WaylandWindow.valid, fits, idle] at rejected
  · intro none
    have busy {i : Nat} {b : Buffer} (hb : (s.window.replaceDirty
        (s.window.newBuffer .BUSY ext)).buffers_.lookup i = some b) : b.state = .BUSY := by
      cases WaylandWindow.lookup_replaceDirty.mp hb with
      | inl new => exact new.2 ▸ rfl
      | inr old =>
        have formed := h.formed i b old.1
        have idle := none i b old.1
        cases hs : b.state with
        | NONE => exact absurd hs formed
        | IDLE => exact absurd hs idle
        | DIRTY => exact absurd hs old.2
        | BUSY => rfl
    constructor
    · refine ⟨s.window.buffers_.next, rfl, h.new _ (Nat.le_refl _), ?_⟩
      intro b hb
      exact absurd (Pool.lookup_lt hb) (Nat.lt_irrefl _)
    · exact ⟨s.window.buffers_.next, _, rfl, s.window.lookup_new _, s.window.fits_newBuffer .BUSY ext⟩
    · intro _ i b hb released
      rw [busy hb] at released
      cases released <;> contradiction
    · intro _
      apply Pool.size_le_count_add_count
      intro i b hb
      exact .inl (decide_eq_true (busy hb))

theorem safe_iff_regular {s t : State} {a : Action} (h : Held s) (_ : step s a = some t) :
    Safe s a ↔ Regular s a := by
  cases a with
  | bind bos =>
    obtain ⟨result, returns, outcome⟩ := DequeueBuffer_outcome s.window bos
    have safe : Safe s (.bind bos) ↔
        result ≠ .error .nullPointer ∧ ∀ d, result = .ok d → Sound s d := by
      constructor
      · intro ⟨result', returns', safe⟩
        have same := (returns 2 (Nat.le_refl 2)).symm.trans (returns' 2 (Nat.le_refl 2))
        exact Option.some.inj same ▸ safe
      · exact fun safe => ⟨result, returns, safe⟩
    rw [safe]
    cases outcome with
    | found found =>
      constructor
      · intro _ absent
        rw [found] at absent
        cases absent
      · exact fun _ => ⟨nofun, fun d hd => Except.ok.inj hd ▸ h.found found⟩
    | @stopped fault absent stopped =>
      constructor
      · intro ⟨formed, _⟩ _
        obtain ⟨bo, hbo, plane⟩ := WaylandWindow.created_breakpoint stopped fun h => formed (h ▸ rfl)
        exact ⟨bo, hbo, .inl plane⟩
      · intro regular
        obtain ⟨bo, hbo, -⟩ := regular absent
        rw [hbo] at stopped
        exact ⟨fun null => WaylandWindow.created_some stopped (Except.error.inj null), nofun⟩
    | made absent made =>
      constructor
      · intro ⟨_, sound⟩ _
        cases hbo : bos 0 with
        | none =>
          rw [hbo] at made
          cases made
        | some bo => exact ⟨bo, rfl, .inr ((h.made absent).mp (sound _ rfl))⟩
      · intro regular
        obtain ⟨bo, hbo, stops | idle⟩ := regular absent
        · rw [hbo, WaylandWindow.created_incomplete _ stops.1 (by simp [stops.2])] at made
          cases made
        · exact ⟨nofun, fun d hd => Except.ok.inj hd ▸ (h.made absent).mpr idle⟩
  | unbind | release | boundsChanged => exact Iff.rfl

/-- In every run, each dequeue is safe exactly when each finds an idle buffer of the window's size, or
creates one while no buffer is idle. -/
theorem pool_safe_iff (rect : Rect) (as : List Action) :
    Along step Safe (init rect) as ↔ Along step Regular (init rect) as :=
  along_congr (fun _ _ _ => step_held) (fun _ _ _ => safe_iff_regular) as (held_init rect)

/-- The driver makes every buffer object. -/
def available (_ : Nat) : Option BufferObject := some ⟨1, 1, 1, 1, true⟩

/-- A frame is drawn and shown, and the window is resized. -/
def resized : List Action :=
  [.bind available, .unbind 0, .release 0, .boundsChanged 0 0 20 20]

/-- The idle buffer of the old size stays next to the one that is created. -/
theorem stale_buffer_stays : ¬ ∀ rect as, Along step Safe (init rect) as := by
  intro h
  have safe := (h ⟨0, 0, 10, 10⟩ (resized ++ [.bind available])).append rfl
  obtain ⟨⟨result, returns, -, sound⟩, -⟩ := safe _ rfl
  have dequeued := returns 2 (Nat.le_refl 2)
  obtain rfl := Option.some.inj dequeued
  have fits := (sound _ rfl).no_stale rfl 0 _ rfl (.inl rfl)
  cases fits

end Anbox.Fydeos.BufferPool
