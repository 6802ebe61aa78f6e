import Anbox.Framework.Run
import Anbox.Framework.Search
import Anbox.Framework.Table
import Mathlib.Algebra.Group.Nat.Defs
import Mathlib.Data.List.Sort
import Mathlib.Logic.Function.Basic

namespace Anbox.Graphics.Renderer

open Anbox.Framework

abbrev HandleType := UInt32

/-- A render context or a window surface: its number among those created, and the thread that
created it. -/
structure Object (τ : Type*) where
  id : Nat
  creator : τ
  deriving DecidableEq

/-- `cb` is the number of the color buffer among those created. -/
structure ColorBufferRef where
  cb : Nat
  refcount : UInt32
  deriving DecidableEq

abbrev ColorBufferMap := AList fun _ : HandleType => ColorBufferRef

/-- The renderer and, of each render thread, its `RenderThreadInfo`. A window surface stands with
the handle of the color buffer attached to it. `objects` counts the contexts and surfaces created
and `colorBuffers` the color buffers; `opens` and `closes` say how often each of these was opened
and closed with success. -/
structure State (τ : Type*) where
  sNextHandle : HandleType
  mContexts : AList fun _ : HandleType => Object τ
  mWindows : AList fun _ : HandleType => Object τ × HandleType
  mColorbuffers : ColorBufferMap
  mContextSet : τ → List HandleType
  mWindowSet : τ → List HandleType
  objects : Nat
  colorBuffers : Nat
  opens : Nat → Nat
  closes : Nat → Nat

def init {τ : Type*} : State τ :=
  { sNextHandle := 0, mContexts := ∅, mWindows := ∅, mColorbuffers := ∅,
    mContextSet := fun _ => [], mWindowSet := fun _ => [], objects := 0, colorBuffers := 0,
    opens := fun _ => 0, closes := fun _ => 0 }

/-- What the render threads call, each of it under `m_lock` from its start to its end. `created`
says that the object itself could be created, `config` that the list of configs has the one asked
for. -/
inductive Action (τ : Type*) where
  | createColorBuffer (created : Bool)
  | createRenderContext (t : τ) (config : Bool) (pShare : HandleType) (created : Bool)
  | createWindowSurface (t : τ) (config : Bool) (created : Bool)
  | drainRenderContext (t : τ)
  | drainWindowSurface (t : τ)
  | destroyRenderContext (t : τ) (pContext : HandleType)
  | destroyWindowSurface (t : τ) (pSurface : HandleType)
  | openColorBuffer (pColorbuffer : HandleType)
  | closeColorBuffer (pColorbuffer : HandleType)
  | setWindowSurfaceColorBuffer (pSurface pColorbuffer : HandleType)

/-- `std::set::insert` and `std::set::erase`, on the elements in their order. -/
def setInsert (hs : List HandleType) (h : HandleType) : List HandleType :=
  if h ∈ hs then hs else hs.orderedInsert (· ≤ ·) h

def setErase (hs : List HandleType) (h : HandleType) : List HandleType := hs.filter (· ≠ h)

/-- One reference less; the entry goes with the last one. -/
def release (m : ColorBufferMap) (h : HandleType) : ColorBufferMap :=
  match m.lookup h with
  | none => m
  | some ref =>
    if ref.refcount - 1 = 0 then m.erase h
    else m.insert h { ref with refcount := ref.refcount - 1 }

variable {τ : Type*}

namespace State

/-- The candidates that the loop of `genHandle` goes past. -/
def taken (s : State τ) (id : HandleType) : Bool :=
  id = 0 || (s.mContexts.lookup id).isSome || (s.mWindows.lookup id).isSome

/-- After 2^32 candidates each number has been tried, and the loop goes on for ever. -/
def genHandle (s : State τ) : Option HandleType :=
  search (· + 1) s.taken (2^32) s.sNextHandle

def addColorBuffer (s : State τ) (ret : HandleType) : State τ :=
  { s with
    sNextHandle := ret
    mColorbuffers := s.mColorbuffers.insert ret ⟨s.colorBuffers, 1⟩
    colorBuffers := s.colorBuffers + 1 }

variable [DecidableEq τ]

def addRenderContext (s : State τ) (t : τ) (ret : HandleType) : State τ :=
  { s with
    sNextHandle := ret
    mContexts := s.mContexts.insert ret ⟨s.objects, t⟩
    mContextSet := Function.update s.mContextSet t (setInsert (s.mContextSet t) ret)
    objects := s.objects + 1 }

def addWindowSurface (s : State τ) (t : τ) (ret : HandleType) : State τ :=
  { s with
    sNextHandle := ret
    mWindows := s.mWindows.insert ret (⟨s.objects, t⟩, 0)
    mWindowSet := Function.update s.mWindowSet t (setInsert (s.mWindowSet t) ret)
    objects := s.objects + 1 }

/-- The handle returned, and the state; `none` is a call that does not return. -/
def createColorBuffer (s : State τ) (created : Bool) : Option (HandleType × State τ) :=
  if created then s.genHandle.map fun ret => (ret, s.addColorBuffer ret)
  else some (0, s)

def createRenderContext (s : State τ) (t : τ) (config : Bool) (pShare : HandleType)
    (created : Bool) : Option (HandleType × State τ) :=
  if !config then some (0, s)
  else if pShare ≠ 0 ∧ (s.mContexts.lookup pShare).isNone then some (0, s)
  else if created then s.genHandle.map fun ret => (ret, s.addRenderContext t ret)
  else some (0, s)

def createWindowSurface (s : State τ) (t : τ) (config : Bool) (created : Bool) :
    Option (HandleType × State τ) :=
  if !config then some (0, s)
  else if created then s.genHandle.map fun ret => (ret, s.addWindowSurface t ret)
  else some (0, s)

def drainRenderContext (s : State τ) (t : τ) : State τ :=
  if s.mContextSet t = [] then s
  else
    { s with
      mContexts := eraseAll s.mContexts (s.mContextSet t)
      mContextSet := Function.update s.mContextSet t [] }

/-- The body of the loop of `drainWindowSurface`. -/
def drainWindow (s : State τ) (windowHandle : HandleType) : State τ :=
  match s.mWindows.lookup windowHandle with
  | none => s
  | some (_, oldColorBufferHandle) =>
    { s with
      mColorbuffers :=
        if oldColorBufferHandle ≠ 0 then release s.mColorbuffers oldColorBufferHandle
        else s.mColorbuffers
      mWindows := s.mWindows.erase windowHandle }

def drainWindowSurface (s : State τ) (t : τ) : State τ :=
  if s.mWindowSet t = [] then s
  else
    { (s.mWindowSet t).foldl drainWindow s with
      mWindowSet := Function.update s.mWindowSet t [] }

def destroyRenderContext (s : State τ) (t : τ) (pContext : HandleType) : State τ :=
  { s with
    mContexts := s.mContexts.erase pContext
    mContextSet :=
      if s.mContextSet t = [] then s.mContextSet
      else Function.update s.mContextSet t (setErase (s.mContextSet t) pContext) }

def destroyWindowSurface (s : State τ) (t : τ) (pSurface : HandleType) : State τ :=
  if (s.mWindows.lookup pSurface).isSome then
    { s with
      mWindows := s.mWindows.erase pSurface
      mWindowSet :=
        if s.mWindowSet t = [] then s.mWindowSet
        else Function.update s.mWindowSet t (setErase (s.mWindowSet t) pSurface) }
  else s

def openColorBuffer (s : State τ) (pColorbuffer : HandleType) : Int × State τ :=
  match s.mColorbuffers.lookup pColorbuffer with
  | none => (-1, s)
  | some ref =>
    (0, { s with
      mColorbuffers :=
        s.mColorbuffers.insert pColorbuffer { ref with refcount := ref.refcount + 1 }
      opens := Function.update s.opens ref.cb (s.opens ref.cb + 1) })

def closeColorBuffer (s : State τ) (pColorbuffer : HandleType) : State τ :=
  match s.mColorbuffers.lookup pColorbuffer with
  | none => s
  | some ref =>
    { s with
      mColorbuffers := release s.mColorbuffers pColorbuffer
      closes := Function.update s.closes ref.cb (s.closes ref.cb + 1) }

def setWindowSurfaceColorBuffer (s : State τ) (pSurface pColorbuffer : HandleType) :
    Bool × State τ :=
  match s.mWindows.lookup pSurface, s.mColorbuffers.lookup pColorbuffer with
  | some (w, _), some _ =>
    (true, { s with mWindows := s.mWindows.insert pSurface (w, pColorbuffer) })
  | _, _ => (false, s)

/-- The call comes to `genHandle`. -/
def creates (s : State τ) : Action τ → Bool
  | .createColorBuffer created => created
  | .createRenderContext _ config pShare created =>
    config && (pShare = 0 || (s.mContexts.lookup pShare).isSome) && created
  | .createWindowSurface _ config created => config && created
  | _ => false

end State

/-! Handles. -/

theorem taken_eq_false {s : State τ} {id : HandleType} : s.taken id = false ↔
    id ≠ 0 ∧ s.mContexts.lookup id = none ∧ s.mWindows.lookup id = none := by
  simp [State.taken, and_assoc]

theorem genHandle_free {s : State τ} {id : HandleType} (h : s.genHandle = some id) :
    id ≠ 0 ∧ s.mContexts.lookup id = none ∧ s.mWindows.lookup id = none :=
  taken_eq_false.mp (search_free h)

/-! Releases and drains. -/

theorem release_none {m : ColorBufferMap} {k : HandleType} (h : HandleType)
    (absent : m.lookup k = none) : (release m h).lookup k = none := by
  unfold release
  split
  · exact absent
  · rename_i ref live
    split_ifs
    · exact lookup_erase_none h absent
    · exact lookup_write_none live absent

/-- The loop of `drainWindowSurface` takes windows out and changes the color buffers. -/
theorem drainWindow_eq (s : State τ) (h : HandleType) : s.drainWindow h = { s with
    mColorbuffers := (s.drainWindow h).mColorbuffers, mWindows := s.mWindows.erase h } := by
  unfold State.drainWindow
  cases hw : s.mWindows.lookup h with
  | none => simp [erase_of_lookup_none hw]
  | some w => rfl

theorem drainWindows_eq (hs : List HandleType) (s : State τ) :
    hs.foldl State.drainWindow s = { s with
      mColorbuffers := (hs.foldl State.drainWindow s).mColorbuffers
      mWindows := eraseAll s.mWindows hs } := by
  induction hs generalizing s with
  | nil => rfl
  | cons h hs ih =>
    rw [List.foldl_cons, ih, drainWindow_eq]
    rfl

/-- What each release keeps the loop keeps. -/
theorem drainWindows_invariant {P : ColorBufferMap → Prop} (hp : ∀ m h, P m → P (release m h))
    {hs : List HandleType} {s : State τ} (h : P s.mColorbuffers) :
    P (hs.foldl State.drainWindow s).mColorbuffers := by
  induction hs generalizing s with
  | nil => exact h
  | cons a hs ih =>
    apply ih
    unfold State.drainWindow
    split
    · exact h
    · dsimp only
      split_ifs
      · exact hp _ _ h
      · exact h

/-- To clear an empty set changes nothing: the drains need not look at it first. -/
theorem clear_empty [DecidableEq τ] {sets : τ → List HandleType} {t : τ} (empty : sets t = []) :
    Function.update sets t [] = sets := by
  rw [← empty, Function.update_eq_self]

theorem drainRenderContext_eq [DecidableEq τ] (s : State τ) (t : τ) : s.drainRenderContext t =
    { s with
      mContexts := eraseAll s.mContexts (s.mContextSet t)
      mContextSet := Function.update s.mContextSet t [] } := by
  unfold State.drainRenderContext
  split_ifs with empty
  · rw [clear_empty empty, empty]
    rfl
  · rfl

theorem drainWindowSurface_eq [DecidableEq τ] (s : State τ) (t : τ) : s.drainWindowSurface t =
    { s with
      mColorbuffers := ((s.mWindowSet t).foldl State.drainWindow s).mColorbuffers
      mWindows := eraseAll s.mWindows (s.mWindowSet t)
      mWindowSet := Function.update s.mWindowSet t [] } := by
  unfold State.drainWindowSurface
  split_ifs with empty
  · rw [clear_empty empty, empty]
    rfl
  · rw [drainWindows_eq]

/-! The calls as steps. -/

/-- A creation that fails, or a call with a handle that names nothing. -/
def Refused (s : State τ) : Action τ → Prop
  | .createColorBuffer created => created = false
  | .createRenderContext t config pShare created =>
    s.creates (.createRenderContext t config pShare created) = false
  | .createWindowSurface t config created => s.creates (.createWindowSurface t config created) = false
  | .openColorBuffer p | .closeColorBuffer p => s.mColorbuffers.lookup p = none
  | .setWindowSurfaceColorBuffer p c =>
    s.mWindows.lookup p = none ∨ s.mColorbuffers.lookup c = none
  | .drainRenderContext _ | .drainWindowSurface _ => False
  | .destroyRenderContext _ _ | .destroyWindowSurface _ _ => False

/-- A refused call comes to no handle. -/
theorem Refused.creates {s : State τ} {a : Action τ} (h : Refused s a) : s.creates a = false := by
  cases a with
  | createColorBuffer created => exact h
  | createRenderContext | createWindowSurface => exact h
  | drainRenderContext | drainWindowSurface | destroyRenderContext | destroyWindowSurface => exact h.elim
  | openColorBuffer | closeColorBuffer | setWindowSurfaceColorBuffer => rfl

variable [DecidableEq τ]

def step (s : State τ) : Action τ → Option (State τ)
  | .createColorBuffer created => (s.createColorBuffer created).map Prod.snd
  | .createRenderContext t config pShare created =>
    (s.createRenderContext t config pShare created).map Prod.snd
  | .createWindowSurface t config created => (s.createWindowSurface t config created).map Prod.snd
  | .drainRenderContext t => some (s.drainRenderContext t)
  | .drainWindowSurface t => some (s.drainWindowSurface t)
  | .destroyRenderContext t pContext => some (s.destroyRenderContext t pContext)
  | .destroyWindowSurface t pSurface => some (s.destroyWindowSurface t pSurface)
  | .openColorBuffer pColorbuffer => some (s.openColorBuffer pColorbuffer).2
  | .closeColorBuffer pColorbuffer => some (s.closeColorBuffer pColorbuffer)
  | .setWindowSurfaceColorBuffer pSurface pColorbuffer =>
    some (s.setWindowSurfaceColorBuffer pSurface pColorbuffer).2

/-- The steps there are: a creation comes to `genHandle` and returns its handle, or changes
nothing. -/
inductive Step (s : State τ) : Action τ → State τ → Prop where
  | colorBuffer {id : HandleType} (h : s.genHandle = some id) :
      Step s (.createColorBuffer true) (s.addColorBuffer id)
  | context {t : τ} {config : Bool} {pShare : HandleType} {created : Bool} {id : HandleType}
      (creates : s.creates (.createRenderContext t config pShare created) = true)
      (h : s.genHandle = some id) :
      Step s (.createRenderContext t config pShare created) (s.addRenderContext t id)
  | window {t : τ} {config created : Bool} {id : HandleType}
      (creates : s.creates (.createWindowSurface t config created) = true)
      (h : s.genHandle = some id) :
      Step s (.createWindowSurface t config created) (s.addWindowSurface t id)
  | nothing {a : Action τ} (h : Refused s a) : Step s a s
  | drainRenderContext (t : τ) : Step s (.drainRenderContext t) (s.drainRenderContext t)
  | drainWindowSurface (t : τ) : Step s (.drainWindowSurface t) (s.drainWindowSurface t)
  | destroyRenderContext (t : τ) (p : HandleType) :
      Step s (.destroyRenderContext t p) (s.destroyRenderContext t p)
  | destroyWindowSurface (t : τ) (p : HandleType) :
      Step s (.destroyWindowSurface t p) (s.destroyWindowSurface t p)
  | openColorBuffer {p : HandleType} {ref : ColorBufferRef}
      (h : s.mColorbuffers.lookup p = some ref) : Step s (.openColorBuffer p) { s with
        mColorbuffers := s.mColorbuffers.insert p { ref with refcount := ref.refcount + 1 }
        opens := Function.update s.opens ref.cb (s.opens ref.cb + 1) }
  | closeColorBuffer {p : HandleType} {ref : ColorBufferRef}
      (h : s.mColorbuffers.lookup p = some ref) : Step s (.closeColorBuffer p) { s with
        mColorbuffers := release s.mColorbuffers p
        closes := Function.update s.closes ref.cb (s.closes ref.cb + 1) }
  | setColorBuffer {p c : HandleType} {w : Object τ} {old : HandleType}
      (window : s.mWindows.lookup p = some (w, old)) {ref : ColorBufferRef}
      (h : s.mColorbuffers.lookup c = some ref) :
      Step s (.setWindowSurfaceColorBuffer p c)
        { s with mWindows := s.mWindows.insert p (w, c) }

theorem createRenderContext_eq (s : State τ) (t : τ) (config : Bool) (pShare : HandleType)
    (created : Bool) : s.createRenderContext t config pShare created =
      if s.creates (.createRenderContext t config pShare created) then
        s.genHandle.map fun ret => (ret, s.addRenderContext t ret)
      else some (0, s) := by
  unfold State.createRenderContext State.creates
  cases config with
  | false => rfl
  | true =>
    cases created with
    | false => simp
    | true =>
      by_cases unshared : pShare = 0
      · simp [unshared]
      · cases h : s.mContexts.lookup pShare <;> simp [unshared, h]

theorem createWindowSurface_eq (s : State τ) (t : τ) (config created : Bool) :
    s.createWindowSurface t config created =
      if s.creates (.createWindowSurface t config created) then
        s.genHandle.map fun ret => (ret, s.addWindowSurface t ret)
      else some (0, s) := by
  unfold State.createWindowSurface State.creates
  cases config <;> cases created <;> rfl

theorem step_cases {s t : State τ} {a : Action τ} (h : step s a = some t) : Step s a t := by
  cases a with
  | createColorBuffer created =>
    cases created with
    | false => exact Option.some.inj h ▸ .nothing rfl
    | true =>
      obtain ⟨⟨ret, u⟩, hu, rfl⟩ := Option.map_eq_some_iff.mp h
      obtain ⟨id, hid, heq⟩ := Option.map_eq_some_iff.mp hu
      obtain ⟨rfl, rfl⟩ := Prod.mk.inj heq
      exact .colorBuffer hid
  | createRenderContext u config pShare created =>
    simp only [step, createRenderContext_eq] at h
    split_ifs at h with creates
    · obtain ⟨⟨ret, v⟩, hv, rfl⟩ := Option.map_eq_some_iff.mp h
      obtain ⟨id, hid, heq⟩ := Option.map_eq_some_iff.mp hv
      obtain ⟨rfl, rfl⟩ := Prod.mk.inj heq
      exact .context creates hid
    · exact Option.some.inj h ▸ .nothing (Bool.eq_false_of_not_eq_true creates)
  | createWindowSurface u config created =>
    simp only [step, createWindowSurface_eq] at h
    split_ifs at h with creates
    · obtain ⟨⟨ret, v⟩, hv, rfl⟩ := Option.map_eq_some_iff.mp h
      obtain ⟨id, hid, heq⟩ := Option.map_eq_some_iff.mp hv
      obtain ⟨rfl, rfl⟩ := Prod.mk.inj heq
      exact .window creates hid
    · exact Option.some.inj h ▸ .nothing (Bool.eq_false_of_not_eq_true creates)
  | drainRenderContext u => exact Option.some.inj h ▸ .drainRenderContext u
  | drainWindowSurface u => exact Option.some.inj h ▸ .drainWindowSurface u
  | destroyRenderContext u p => exact Option.some.inj h ▸ .destroyRenderContext u p
  | destroyWindowSurface u p => exact Option.some.inj h ▸ .destroyWindowSurface u p
  | openColorBuffer p =>
    simp only [step, State.openColorBuffer, Option.some.injEq] at h
    split at h
    · rename_i absent
      exact h ▸ .nothing absent
    · rename_i ref hl
      exact h ▸ .openColorBuffer hl
  | closeColorBuffer p =>
    simp only [step, State.closeColorBuffer, Option.some.injEq] at h
    split at h
    · rename_i absent
      exact h ▸ .nothing absent
    · rename_i ref hl
      exact h ▸ .closeColorBuffer hl
  | setWindowSurfaceColorBuffer p c =>
    simp only [step, State.setWindowSurfaceColorBuffer, Option.some.injEq] at h
    cases hw : s.mWindows.lookup p with
    | none => exact (by simpa [hw] using h : s = t) ▸ .nothing (Or.inl hw)
    | some w =>
      cases hc : s.mColorbuffers.lookup c with
      | none => exact (by simpa [hw, hc] using h : s = t) ▸ .nothing (Or.inr hc)
      | some ref =>
        rw [hw, hc] at h
        exact h ▸ .setColorBuffer hw hc

/-- A creation that returns has found a handle. -/
theorem creates_genHandle {s t : State τ} {a : Action τ} (creates : s.creates a = true)
    (hs : step s a = some t) : ∃ id, s.genHandle = some id := by
  cases step_cases hs with
  | colorBuffer h => exact ⟨_, h⟩
  | context _ h => exact ⟨_, h⟩
  | window _ h => exact ⟨_, h⟩
  | nothing h =>
    rw [h.creates] at creates
    cases creates
  | drainRenderContext | drainWindowSurface | destroyRenderContext | destroyWindowSurface => cases creates
  | openColorBuffer | closeColorBuffer | setColorBuffer => cases creates

end Anbox.Graphics.Renderer
