import Anbox.Framework.Ownership
import Anbox.Graphics.Renderer

namespace Anbox.Graphics.Renderer

open Anbox.Framework

variable {τ : Type*}

/-- The thread that created what the handle names. -/
def State.contextCreator (s : State τ) (h : HandleType) : Option τ :=
  (s.mContexts.lookup h).map Object.creator

def State.windowCreator (s : State τ) (h : HandleType) : Option τ :=
  (s.mWindows.lookup h).map fun w => w.1.creator

/-- The contexts, and the window surfaces, are divided among the threads that created them. -/
structure ByThread (s : State τ) : Prop where
  contexts : Owned s.contextCreator s.mContextSet
  windows : Owned s.windowCreator s.mWindowSet

/-- A thread that ends removes what it created and nothing else. -/
def DrainsOwn [DecidableEq τ] (s : State τ) : Action τ → Prop
  | .drainRenderContext t => ∀ h,
      (s.drainRenderContext t).mContexts.lookup h =
        (s.mContexts.lookup h).filter fun c => c.creator ≠ t
  | .drainWindowSurface t => ∀ h,
      (s.drainWindowSurface t).mWindows.lookup h =
        (s.mWindows.lookup h).filter fun w => w.1.creator ≠ t
  | _ => True

/-- A thread destroys only what it created. -/
def DestroysOwn (s : State τ) : Action τ → Prop
  | .destroyRenderContext t p => ∀ u, s.contextCreator p = some u → u = t
  | .destroyWindowSurface t p => ∀ u, s.windowCreator p = some u → u = t
  | _ => True

theorem byThread_init : ByThread (init : State τ) := ⟨owned_empty, owned_empty⟩

theorem byThread_iff_windows {s : State τ} (contexts : Owned s.contextCreator s.mContextSet) :
    ByThread s ↔ Owned s.windowCreator s.mWindowSet :=
  ⟨fun h => h.windows, fun windows => ⟨contexts, windows⟩⟩

theorem Refused.destroysOwn {s : State τ} {a : Action τ} (h : Refused s a) : DestroysOwn s a := by
  cases a with
  | destroyRenderContext | destroyWindowSurface => exact h.elim
  | _ => trivial

/-- A surface keeps its creator when a color buffer is attached to it. -/
theorem ByThread.setColorBuffer {s : State τ} (own : ByThread s) {p c : HandleType} {w : Object τ}
    {old : HandleType} (window : s.mWindows.lookup p = some (w, old)) :
    ByThread { s with mWindows := s.mWindows.insert p (w, c) } where
  contexts := own.contexts
  windows := by
    have same : State.windowCreator { s with mWindows := s.mWindows.insert p (w, c) } =
        s.windowCreator := by
      funext h
      by_cases hp : h = p
      · subst hp
        simp [State.windowCreator, window]
      · simp [State.windowCreator, AList.lookup_insert_ne hp]
    rw [same]
    exact own.windows

/-! The sets of the threads. -/

theorem mem_setInsert {hs : List HandleType} {h x : HandleType} :
    x ∈ setInsert hs h ↔ x ∈ hs ∨ x = h := by
  unfold setInsert
  split_ifs with there
  · constructor
    · exact Or.inl
    · intro hx
      cases hx with
      | inl hx => exact hx
      | inr hx => exact hx ▸ there
  · rw [List.mem_orderedInsert, or_comm]

theorem mem_setErase {hs : List HandleType} {h x : HandleType} :
    x ∈ setErase hs h ↔ x ∈ hs ∧ x ≠ h := by
  simp [setErase]

variable [DecidableEq τ] {sets : τ → List HandleType} {t u : τ} {h x : HandleType}

theorem mem_insert_set : x ∈ Function.update sets t (setInsert (sets t) h) u ↔
    x ∈ sets u ∨ x = h ∧ u = t := by
  by_cases hu : u = t
  · subst hu
    simp [mem_setInsert]
  · simp [hu]

theorem mem_clear_set : x ∈ Function.update sets t [] u ↔ x ∈ sets u ∧ u ≠ t := by
  by_cases hu : u = t
  · subst hu
    simp
  · simp [hu]

theorem mem_erase_set : x ∈ (if sets t = [] then sets
    else Function.update sets t (setErase (sets t) h)) u ↔ x ∈ sets u ∧ ¬ (x = h ∧ u = t) := by
  split_ifs with empty
  · constructor
    · intro hx
      refine ⟨hx, ?_⟩
      rintro ⟨-, rfl⟩
      rw [empty] at hx
      cases hx
    · exact And.left
  · by_cases hu : u = t
    · subst hu
      simp [mem_setErase]
    · simp [hu]

/-! The steps. -/

theorem ByThread.context {s : State τ} (own : ByThread s) {id : HandleType}
    (h : s.genHandle = some id) (t : τ) : ByThread (s.addRenderContext t id) where
  contexts := by
    obtain ⟨-, unused, -⟩ := genHandle_free h
    refine own.contexts.create (k := id) (t := t) ?_ ?_ ?_ fun x u => mem_insert_set
    · simp [State.contextCreator, unused]
    · simp [State.contextCreator, State.addRenderContext]
    · intro x hx
      simp [State.contextCreator, State.addRenderContext, AList.lookup_insert_ne hx]
  windows := own.windows

theorem ByThread.window {s : State τ} (own : ByThread s) {id : HandleType}
    (h : s.genHandle = some id) (t : τ) : ByThread (s.addWindowSurface t id) where
  contexts := own.contexts
  windows := by
    obtain ⟨-, -, unused⟩ := genHandle_free h
    refine own.windows.create (k := id) (t := t) ?_ ?_ ?_ fun x u => mem_insert_set
    · simp [State.windowCreator, unused]
    · simp [State.windowCreator, State.addWindowSurface]
    · intro x hx
      simp [State.windowCreator, State.addWindowSurface, AList.lookup_insert_ne hx]

theorem drain_contexts (s : State τ) (t : τ) (h : HandleType) :
    (s.drainRenderContext t).mContexts.lookup h =
      if h ∈ s.mContextSet t then none else s.mContexts.lookup h := by
  rw [drainRenderContext_eq, lookup_eraseAll]

theorem drain_windows (s : State τ) (t : τ) (h : HandleType) :
    (s.drainWindowSurface t).mWindows.lookup h =
      if h ∈ s.mWindowSet t then none else s.mWindows.lookup h := by
  rw [drainWindowSurface_eq, lookup_eraseAll]

theorem drain_contextSet (s : State τ) (t u : τ) (h : HandleType) :
    h ∈ (s.drainRenderContext t).mContextSet u ↔ h ∈ s.mContextSet u ∧ u ≠ t := by
  rw [drainRenderContext_eq, mem_clear_set]

theorem drain_windowSet (s : State τ) (t u : τ) (h : HandleType) :
    h ∈ (s.drainWindowSurface t).mWindowSet u ↔ h ∈ s.mWindowSet u ∧ u ≠ t := by
  rw [drainWindowSurface_eq, mem_clear_set]

theorem ByThread.drainRenderContext {s : State τ} (own : ByThread s) (t : τ) :
    ByThread (s.drainRenderContext t) where
  contexts := by
    refine own.contexts.drain (t := t) ?_ ?_ fun x u => drain_contextSet s t u x
    · intro x hx
      simp [State.contextCreator, drain_contexts, hx]
    · intro x hx
      simp [State.contextCreator, drain_contexts, hx]
  windows := by
    rw [drainRenderContext_eq]
    exact own.windows

theorem ByThread.drainWindowSurface {s : State τ} (own : ByThread s) (t : τ) :
    ByThread (s.drainWindowSurface t) where
  contexts := by
    rw [drainWindowSurface_eq]
    exact own.contexts
  windows := by
    refine own.windows.drain (t := t) ?_ ?_ fun x u => drain_windowSet s t u x
    · intro x hx
      simp [State.windowCreator, drain_windows, hx]
    · intro x hx
      simp [State.windowCreator, drain_windows, hx]

theorem ByThread.destroyRenderContext {s : State τ} (own : ByThread s) (t : τ) (p : HandleType) :
    ByThread (s.destroyRenderContext t p) ↔ DestroysOwn s (.destroyRenderContext t p) := by
  have contexts : Owned (s.destroyRenderContext t p).contextCreator
      (s.destroyRenderContext t p).mContextSet ↔ ∀ u, s.contextCreator p = some u → u = t := by
    refine own.contexts.destroy_iff ?_ ?_ fun x u => mem_erase_set
    · simp [State.contextCreator, State.destroyRenderContext]
    · intro x hx
      simp [State.contextCreator, State.destroyRenderContext, AList.lookup_erase_ne hx]
  exact ⟨fun h => contexts.mp h.contexts, fun h => ⟨contexts.mpr h, own.windows⟩⟩

theorem ByThread.destroyWindowSurface {s : State τ} (own : ByThread s) (t : τ) (p : HandleType) :
    ByThread (s.destroyWindowSurface t p) ↔ DestroysOwn s (.destroyWindowSurface t p) := by
  by_cases live : (s.mWindows.lookup p).isSome = true
  · rw [State.destroyWindowSurface, if_pos live]
    refine Iff.trans (byThread_iff_windows ?_)
      (own.windows.destroy_iff ?_ ?_ fun x u => mem_erase_set)
    · exact own.contexts
    · simp [State.windowCreator]
    · intro x hx
      simp [State.windowCreator, AList.lookup_erase_ne hx]
  · rw [State.destroyWindowSurface, if_neg live]
    refine iff_of_true own fun u hu => ?_
    have absent : s.mWindows.lookup p = none := by simpa using live
    simp [State.windowCreator, absent] at hu

theorem byThread_step_iff {s t : State τ} {a : Action τ} (own : ByThread s)
    (hs : step s a = some t) : ByThread t ↔ DestroysOwn s a := by
  cases step_cases hs with
  | colorBuffer h => exact iff_of_true ⟨own.contexts, own.windows⟩ trivial
  | context creates h => exact iff_of_true (own.context h _) trivial
  | window creates h => exact iff_of_true (own.window h _) trivial
  | nothing h => exact iff_of_true own h.destroysOwn
  | drainRenderContext u => exact iff_of_true (own.drainRenderContext u) trivial
  | drainWindowSurface u => exact iff_of_true (own.drainWindowSurface u) trivial
  | destroyRenderContext u p => exact own.destroyRenderContext u p
  | destroyWindowSurface u p => exact own.destroyWindowSurface u p
  | openColorBuffer live => exact iff_of_true ⟨own.contexts, own.windows⟩ trivial
  | closeColorBuffer live => exact iff_of_true ⟨own.contexts, own.windows⟩ trivial
  | setColorBuffer window live => exact iff_of_true (own.setColorBuffer window) trivial

/-- What is divided by creator a drain removes by creator. -/
theorem ByThread.drainsOwn {s : State τ} (own : ByThread s) (a : Action τ) : DrainsOwn s a := by
  cases a with
  | drainRenderContext t =>
    intro h
    have kept := (owned_iff.mp own.contexts) h t
    rw [drain_contexts]
    cases live : s.mContexts.lookup h with
    | none => simp
    | some c => simp [kept, State.contextCreator, live, Option.filter]
  | drainWindowSurface t =>
    intro h
    have kept := (owned_iff.mp own.windows) h t
    rw [drain_windows]
    cases live : s.mWindows.lookup h with
    | none => simp
    | some w => simp [kept, State.windowCreator, live, Option.filter]
  | _ => trivial

/-- In a run of any threads the objects are divided among their creators, and a thread that ends
removes its own and no others, exactly when no thread destroys an object of another. -/
theorem owned_by_creators_iff (as : List (Action τ)) :
    Always step ByThread init as ∧ Along step DrainsOwn init as ↔ Along step DestroysOwn init as := by
  have divided : Always step ByThread init as ↔ Along step DestroysOwn init as :=
    always_iff_along (fun _ h => h) (fun _ _ _ own destroys hs => (byThread_step_iff own hs).mpr destroys)
      (fun _ _ _ own hs next => (byThread_step_iff own hs).mp next) as byThread_init
  constructor
  · intro h
    exact divided.mp h.1
  · intro h
    have always := divided.mpr h
    exact ⟨always, always.along fun _ a own => own.drainsOwn a⟩

/-- Thread 2 destroys the context of thread 1, which keeps its handle. -/
theorem foreign_context_destroyed :
    ¬ ∀ as : List (Action Nat), Always step ByThread init as := by
  intro h
  have run : ∃ s : State Nat, run step init [.createRenderContext 1 true 0 true,
      .destroyRenderContext 2 1] = some s ∧ s.mContextSet 1 = [1] ∧ s.contextCreator 1 = none :=
    ⟨_, rfl, rfl, rfl⟩
  obtain ⟨s, hs, kept, gone⟩ := run
  have union := (h _).last hs |>.contexts.union 1
  rw [gone] at union
  have still : ∃ t, 1 ∈ s.mContextSet t := ⟨1, by simp [kept]⟩
  cases union.mpr still

end Anbox.Graphics.Renderer
