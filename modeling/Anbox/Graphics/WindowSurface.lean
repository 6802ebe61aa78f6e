import Anbox.Graphics.RendererConfig

namespace Anbox.Graphics.WindowSurface

open RendererConfig (EGL_NONE)

def EGL_HEIGHT : Int32 := 0x3056
def EGL_WIDTH : Int32 := 0x3057

/-- `id` tells color buffers apart that have the same size. -/
structure ColorBuffer where
  id : Nat
  mWidth : UInt32
  mHeight : UInt32
  deriving DecidableEq

variable (EGLConfig EGLContext EGLSurface : Type)

structure RenderContext where
  id : Nat
  mContext : EGLContext
  mIsGl2 : Bool
  deriving DecidableEq

/-- The contexts that a window surface holds. -/
structure Contexts (RenderContext : Type*) where
  mReadContext : Option RenderContext
  mDrawContext : Option RenderContext
  deriving DecidableEq

inductive BindType where
  | BIND_READ
  | BIND_DRAW
  | BIND_READDRAW
  deriving DecidableEq

/-- What EGL answers: whether it makes something current, and the surface it creates if it does. -/
structure Egl where
  eglMakeCurrent : Option EGLSurface → Option EGLSurface → Option EGLContext → Bool
  eglCreatePbufferSurface : EGLConfig → List Int32 → Option EGLSurface

/-- What is current in a thread. -/
structure Current where
  context : Option EGLContext
  draw : Option EGLSurface
  read : Option EGLSurface
  deriving DecidableEq

/-- EGL as the thread sees it, with the pbuffers that have not been destroyed. -/
structure Display where
  current : Current EGLContext EGLSurface
  pbuffers : List EGLSurface
  deriving DecidableEq

structure State extends Contexts (RenderContext EGLContext) where
  mSurface : Option EGLSurface
  mAttachedColorBuffer : Option ColorBuffer
  mWidth : UInt32
  mHeight : UInt32
  mConfig : EGLConfig
  deriving DecidableEq

def Contexts.bind {RenderContext : Type*} (w : Contexts RenderContext) (pCtx : Option RenderContext) :
    BindType → Contexts RenderContext
  | .BIND_READ => { w with mReadContext := pCtx }
  | .BIND_DRAW => { w with mDrawContext := pCtx }
  | .BIND_READDRAW => { w with mReadContext := pCtx, mDrawContext := pCtx }

variable {EGLConfig EGLContext EGLSurface} [DecidableEq EGLSurface]

/-- A call that fails leaves current what was. -/
def Display.makeCurrent (d : Display EGLContext EGLSurface) (egl : Egl EGLConfig EGLContext EGLSurface)
    (draw read : Option EGLSurface) (context : Option EGLContext) : Display EGLContext EGLSurface :=
  if egl.eglMakeCurrent draw read context then { d with current := ⟨context, draw, read⟩ } else d

def Display.destroySurface (d : Display EGLContext EGLSurface) (surface : EGLSurface) :
    Display EGLContext EGLSurface := { d with pbuffers := d.pbuffers.erase surface }

def pbufAttribs (pWidth pHeight : UInt32) : List Int32 :=
  [EGL_WIDTH, pWidth.toInt32, EGL_HEIGHT, pHeight.toInt32, EGL_NONE]

/-- The surface is current in the thread, as the one that is read from or drawn to. -/
def needRebindContext (w : State EGLConfig EGLContext EGLSurface) (d : Display EGLContext EGLSurface) :
    Bool :=
  w.mSurface.isSome && (d.current.read = w.mSurface || d.current.draw = w.mSurface)

/-- The surface is unbound where it has to be, and destroyed. -/
def release (w : State EGLConfig EGLContext EGLSurface) (d : Display EGLContext EGLSurface)
    (egl : Egl EGLConfig EGLContext EGLSurface) : Display EGLContext EGLSurface :=
  let d := if needRebindContext w d then d.makeCurrent egl none none none else d
  match w.mSurface with
  | none => d
  | some surface => d.destroySurface surface

def resize (w : State EGLConfig EGLContext EGLSurface) (d : Display EGLContext EGLSurface)
    (egl : Egl EGLConfig EGLContext EGLSurface) (pWidth pHeight : UInt32) :
    Bool × State EGLConfig EGLContext EGLSurface × Display EGLContext EGLSurface :=
  if w.mSurface.isSome ∧ w.mWidth = pWidth ∧ w.mHeight = pHeight then (true, w, d)
  else
    let released := release w d egl
    match egl.eglCreatePbufferSurface w.mConfig (pbufAttribs pWidth pHeight) with
    | none => (false, { w with mSurface := none }, released)
    | some surface =>
      let resized := { w with mSurface := some surface, mWidth := pWidth, mHeight := pHeight }
      let created := { released with pbuffers := surface :: released.pbuffers }
      let again (prev : Option EGLSurface) := if prev = w.mSurface then some surface else prev
      (true, resized,
        if needRebindContext w d then
          created.makeCurrent egl (again d.current.draw) (again d.current.read) d.current.context
        else created)

/-- The color buffer has another size than the surface. -/
def resizes (w : State EGLConfig EGLContext EGLSurface) (pColorBuffer : ColorBuffer) : Prop :=
  pColorBuffer.mWidth ≠ w.mWidth ∨ pColorBuffer.mHeight ≠ w.mHeight

instance (w : State EGLConfig EGLContext EGLSurface) (pColorBuffer : ColorBuffer) :
    Decidable (resizes w pColorBuffer) := instDecidableOr

def setColorBuffer (w : State EGLConfig EGLContext EGLSurface) (d : Display EGLContext EGLSurface)
    (egl : Egl EGLConfig EGLContext EGLSurface) (pColorBuffer : ColorBuffer) :
    State EGLConfig EGLContext EGLSurface × Display EGLContext EGLSurface :=
  let attached := { w with mAttachedColorBuffer := some pColorBuffer }
  if resizes w pColorBuffer then
    (resize attached d egl pColorBuffer.mWidth pColorBuffer.mHeight).2
  else (attached, d)

/-! What is wanted of it. -/

/-- The pbuffer of the new size cannot be created. -/
def CreateFails (w : State EGLConfig EGLContext EGLSurface) (egl : Egl EGLConfig EGLContext EGLSurface)
    (pColorBuffer : ColorBuffer) : Prop :=
  resizes w pColorBuffer ∧
    egl.eglCreatePbufferSurface w.mConfig (pbufAttribs pColorBuffer.mWidth pColorBuffer.mHeight) = none

/-- A failure leaves the surface and the thread as they were, a success gives the surface the size of
its color buffer. -/
structure Transactional (w : State EGLConfig EGLContext EGLSurface) (d : Display EGLContext EGLSurface)
    (egl : Egl EGLConfig EGLContext EGLSurface) (pColorBuffer : ColorBuffer) : Prop where
  failure : CreateFails w egl pColorBuffer → setColorBuffer w d egl pColorBuffer = (w, d)
  success : ¬ CreateFails w egl pColorBuffer →
    (setColorBuffer w d egl pColorBuffer).1.mWidth = pColorBuffer.mWidth ∧
      (setColorBuffer w d egl pColorBuffer).1.mHeight = pColorBuffer.mHeight

variable {w : State EGLConfig EGLContext EGLSurface} {d : Display EGLContext EGLSurface}
  {egl : Egl EGLConfig EGLContext EGLSurface} {pColorBuffer : ColorBuffer}

omit [DecidableEq EGLSurface] in
/-- Another size is never the one that is there already. -/
theorem resize_attached (h : resizes w pColorBuffer) :
    ¬ ((w.mSurface.isSome : Prop) ∧ w.mWidth = pColorBuffer.mWidth ∧ w.mHeight = pColorBuffer.mHeight) := by
  intro same
  obtain width | height := h
  · exact width same.2.1.symm
  · exact height same.2.2.symm

theorem setColorBuffer_failed (h : CreateFails w egl pColorBuffer) :
    setColorBuffer w d egl pColorBuffer =
      ({ w with mSurface := none, mAttachedColorBuffer := some pColorBuffer }, release w d egl) := by
  obtain ⟨other, none⟩ := h
  rw [setColorBuffer, if_pos other, resize, if_neg (resize_attached other), none]
  rfl

/-- Without a surface there is nothing to unbind or destroy. -/
theorem release_none (h : w.mSurface = none) : release w d egl = d := by
  simp [release, needRebindContext, h]

theorem setColorBuffer_size (h : ¬ CreateFails w egl pColorBuffer) :
    (setColorBuffer w d egl pColorBuffer).1.mWidth = pColorBuffer.mWidth ∧
      (setColorBuffer w d egl pColorBuffer).1.mHeight = pColorBuffer.mHeight := by
  rw [setColorBuffer]
  by_cases other : resizes w pColorBuffer
  · cases created : egl.eglCreatePbufferSurface w.mConfig
        (pbufAttribs pColorBuffer.mWidth pColorBuffer.mHeight) with
    | none => exact absurd ⟨other, created⟩ h
    | some surface =>
      rw [if_pos other, resize, if_neg (resize_attached other), created]
      exact ⟨rfl, rfl⟩
  · obtain ⟨width, height⟩ := not_or.mp other
    rw [if_neg other]
    exact ⟨(not_not.mp width).symm, (not_not.mp height).symm⟩

/-- A failure is without a trace only where there was no surface, and the color buffer was the one
that is attached already. -/
theorem setColorBuffer_transactional_iff (w : State EGLConfig EGLContext EGLSurface)
    (d : Display EGLContext EGLSurface) (egl : Egl EGLConfig EGLContext EGLSurface)
    (pColorBuffer : ColorBuffer) : Transactional w d egl pColorBuffer ↔
      (CreateFails w egl pColorBuffer →
        w.mSurface = none ∧ w.mAttachedColorBuffer = some pColorBuffer) := by
  constructor
  · intro h fails
    have kept := h.failure fails
    rw [setColorBuffer_failed fails] at kept
    have same := (Prod.mk.inj kept).1
    exact ⟨(congrArg State.mSurface same).symm, (congrArg State.mAttachedColorBuffer same).symm⟩
  · intro h
    refine ⟨?_, setColorBuffer_size⟩
    intro fails
    obtain ⟨surface, attached⟩ := h fails
    rw [setColorBuffer_failed fails, release_none surface, ← surface, ← attached]

/-- A surface that is current loses its pbuffer, and the thread its context. -/
theorem failed_resize_destroys : ¬ ∀ (w : State Unit Nat Nat) (d : Display Nat Nat)
    (egl : Egl Unit Nat Nat) (pColorBuffer : ColorBuffer), Transactional w d egl pColorBuffer := by
  intro h
  have kept := (h ⟨⟨none, none⟩, some 1, none, 4, 4, ()⟩ ⟨⟨some 9, some 1, some 1⟩, [1]⟩
    ⟨fun _ _ _ => true, fun _ _ => none⟩ ⟨0, 8, 8⟩).failure ⟨by decide, rfl⟩
  exact absurd kept (by decide)

end Anbox.Graphics.WindowSurface
