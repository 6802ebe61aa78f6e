import Anbox.Framework.Pool
import Anbox.Graphics.Rect

namespace Anbox.Fydeos

open Anbox.Framework
open Anbox.Graphics (Rect)

inductive BufferState where
  | NONE
  | IDLE
  | DIRTY
  | BUSY
  deriving DecidableEq

structure BufferExt where
  image : Nat
  texture : Nat
  fbo : Nat
  deriving DecidableEq

structure Buffer where
  state : BufferState
  width : Int
  height : Int
  ext : BufferExt

/-- The calls that generate and delete names. -/
inductive GlCall where
  | eglCreateImageKHR (image : Nat)
  | glGenTextures (texture : Nat)
  | glGenFramebuffers (fbo : Nat)
  | glDeleteTextures (texture : Nat)
  | glDeleteFramebuffers (fbo : Nat)
  | eglDestroyImageKHR (image : Nat)
  deriving DecidableEq

/-- How the program stops: `int3` is reached, or a null pointer is used. -/
inductive Fault where
  | breakpoint
  | nullPointer
  deriving DecidableEq

/-- A buffer object as the driver makes it, and what is generated for it. -/
structure BufferObject where
  planeCount : Nat
  image : Nat
  texture : Nat
  fbo : Nat
  framebufferComplete : Bool

/-- The names are generated before the framebuffer is checked. -/
def createFydeBuffer (bo : BufferObject) : Except Fault (BufferExt × List GlCall) :=
  if bo.framebufferComplete then
    .ok (⟨bo.image, bo.texture, bo.fbo⟩,
      [.eglCreateImageKHR bo.image, .glGenTextures bo.texture, .glGenFramebuffers bo.fbo])
  else .error .breakpoint

def deleteFydeBuffer (ext : BufferExt) : List GlCall :=
  [.glDeleteTextures ext.fbo, .glDeleteTextures ext.texture, .eglDestroyImageKHR ext.image]

/-- `none` where there is no device, or it has no buffer object of this size. -/
def CreateDrmBuffer (width height : Int) :
    Option BufferObject → Except Fault (Option (Buffer × List GlCall))
  | none => .ok none
  | some bo =>
    if bo.planeCount ≠ 1 then .ok (some (⟨.IDLE, width, height, ⟨0, 0, 0⟩⟩, []))
    else (createFydeBuffer bo).map fun e => some (⟨.IDLE, width, height, e.1⟩, e.2)

/-- The listener is added to the `wl_buffer` of the buffer, whether there is a buffer or not. -/
def CreateBuffer (width height : Int) (bo : Option BufferObject) :
    Except Fault (Option (Buffer × List GlCall)) :=
  match CreateDrmBuffer width height bo with
  | .ok none => .error .nullPointer
  | made => made

structure WaylandWindow where
  buffers_ : Pool Buffer
  currentRect_ : Rect

/-- What `DequeueBuffer` returns, and what it has done. -/
structure Dequeued where
  buffer : Option Nat
  window : WaylandWindow
  calls : List GlCall

namespace WaylandWindow

def scale_ : Int := 1

/-- The buffer has the size of the window. -/
def fits (w : WaylandWindow) (b : Buffer) : Bool :=
  decide (w.currentRect_.width = b.width ∧ w.currentRect_.height = b.height)

def valid (w : WaylandWindow) (b : Buffer) : Bool := w.fits b && decide (b.state = .IDLE)

def created (w : WaylandWindow) (bo : Option BufferObject) :
    Except Fault (Option (Buffer × List GlCall)) :=
  CreateBuffer (w.currentRect_.width * scale_) (w.currentRect_.height * scale_) bo

/-- A buffer as it is created for the window. -/
def newBuffer (w : WaylandWindow) (state : BufferState) (ext : BufferExt) : Buffer :=
  ⟨state, w.currentRect_.width * scale_, w.currentRect_.height * scale_, ext⟩

/-- The dirty buffers are deleted, and the new one is added behind the others. -/
def replaceDirty (w : WaylandWindow) (buffer : Buffer) : WaylandWindow :=
  { w with buffers_ := (w.buffers_.keep fun b => decide (b.state ≠ .DIRTY)).push buffer }

def deleted (w : WaylandWindow) : List GlCall :=
  (w.buffers_.selected fun b => decide (b.state = .DIRTY)).flatMap fun b => deleteFydeBuffer b.ext

def setState (w : WaylandWindow) (i : Nat) (state : BufferState) : WaylandWindow :=
  { w with buffers_ := w.buffers_.modify i fun b => { b with state } }

def setNames (w : WaylandWindow) (i : Nat) (texture fbo : Nat) : WaylandWindow :=
  { w with buffers_ := w.buffers_.modify i fun b => { b with ext := { b.ext with texture, fbo } } }

def ext (w : WaylandWindow) (i : Nat) : Option BufferExt := (w.buffers_.lookup i).map Buffer.ext

/-- With the buffer objects that the driver makes, one for each call in turn. -/
def DequeueBuffer : Nat → (Nat → Option BufferObject) → WaylandWindow →
    Option (Except Fault Dequeued)
  | 0, _, _ => none
  | n + 1, bos, w =>
    match w.buffers_.find w.valid with
    | some i => some (.ok ⟨some i, w.setState i .BUSY, []⟩)
    | none =>
      match w.created (bos 0) with
      | .error fault => some (.error fault)
      | .ok none => some (.ok ⟨none, w, []⟩)
      | .ok (some (buffer, calls)) =>
        (DequeueBuffer n (fun k => bos (k + 1)) (w.replaceDirty buffer)).map fun result =>
          result.map fun d => { d with calls := calls ++ w.deleted ++ d.calls }

/-- The listener of the `wl_buffer`. -/
def release (w : WaylandWindow) (i : Nat) : WaylandWindow :=
  { w with buffers_ := w.buffers_.modify i fun b =>
      { b with state := if w.fits b then .IDLE else .DIRTY } }

def shellSurfaceBoundsChanged (w : WaylandWindow) (x y width height : Int) : WaylandWindow :=
  { w with currentRect_ := ⟨x, y, x + width, y + height⟩ }

@[simp] theorem fits_newBuffer (w : WaylandWindow) (state : BufferState) (ext : BufferExt) :
    w.fits (w.newBuffer state ext) = true := by
  simp [fits, newBuffer, scale_]

/-- The buffer of a buffer object with other than one plane has no names. -/
theorem created_planes (w : WaylandWindow) {bo : BufferObject} (planes : bo.planeCount ≠ 1) :
    w.created (some bo) = .ok (some (w.newBuffer .IDLE ⟨0, 0, 0⟩, [])) := by
  rw [created, CreateBuffer, CreateDrmBuffer, if_pos planes]
  rfl

theorem created_plane (w : WaylandWindow) {bo : BufferObject} (plane : bo.planeCount = 1)
    (complete : bo.framebufferComplete = true) :
    w.created (some bo) = .ok (some (w.newBuffer .IDLE ⟨bo.image, bo.texture, bo.fbo⟩,
      [.eglCreateImageKHR bo.image, .glGenTextures bo.texture, .glGenFramebuffers bo.fbo])) := by
  rw [created, CreateBuffer, CreateDrmBuffer, if_neg (not_not.mpr plane), createFydeBuffer,
    if_pos complete]
  rfl

theorem created_incomplete (w : WaylandWindow) {bo : BufferObject} (plane : bo.planeCount = 1)
    (incomplete : ¬ bo.framebufferComplete = true) :
    w.created (some bo) = .error .breakpoint := by
  rw [created, CreateBuffer, CreateDrmBuffer, if_neg (not_not.mpr plane), createFydeBuffer,
    if_neg incomplete]
  rfl

/-- A buffer object that is there is not the null pointer. -/
theorem created_some {w : WaylandWindow} {bo : BufferObject} {fault : Fault}
    (h : w.created (some bo) = .error fault) : fault ≠ .nullPointer := by
  by_cases plane : bo.planeCount = 1
  · by_cases complete : bo.framebufferComplete = true
    · rw [created_plane w plane complete] at h
      cases h
    · rw [created_incomplete w plane complete] at h
      cases h
      decide
  · rw [created_planes w plane] at h
    cases h

theorem created_breakpoint {w : WaylandWindow} {made : Option BufferObject} {fault : Fault}
    (h : w.created made = .error fault) (other : fault ≠ .nullPointer) :
    ∃ bo, made = some bo ∧ bo.planeCount = 1 ∧ bo.framebufferComplete = false := by
  cases made with
  | none => exact absurd (Except.error.inj h).symm other
  | some bo =>
    by_cases plane : bo.planeCount = 1
    · by_cases complete : bo.framebufferComplete = true
      · rw [created_plane w plane complete] at h
        cases h
      · exact ⟨bo, rfl, plane, Bool.not_eq_true _ ▸ complete⟩
    · rw [created_planes w plane] at h
      cases h

/-- A buffer was created of a buffer object: of one without names, or of one with names. -/
theorem created_ok {w : WaylandWindow} {made : Option BufferObject} {ext : BufferExt}
    {calls : List GlCall} (h : w.created made = .ok (some (w.newBuffer .IDLE ext, calls))) :
    ∃ bo, made = some bo ∧ (bo.planeCount ≠ 1 ∧ ext = ⟨0, 0, 0⟩ ∧ calls = [] ∨
      bo.planeCount = 1 ∧ bo.framebufferComplete = true ∧
        calls = [.eglCreateImageKHR bo.image, .glGenTextures bo.texture, .glGenFramebuffers bo.fbo]) := by
  cases made with
  | none => cases h
  | some bo =>
    refine ⟨bo, rfl, ?_⟩
    by_cases plane : bo.planeCount = 1
    · by_cases complete : bo.framebufferComplete = true
      · rw [created_plane w plane complete] at h
        have same := Prod.mk.inj (Option.some.inj (Except.ok.inj h))
        exact .inr ⟨plane, complete, same.2.symm⟩
      · rw [created_incomplete w plane complete] at h
        cases h
    · rw [created_planes w plane] at h
      have same := Prod.mk.inj (Option.some.inj (Except.ok.inj h))
      exact .inl ⟨plane, (congrArg Buffer.ext same.1).symm, same.2.symm⟩

/-- The program stops, or there is a buffer that fits. -/
theorem created_cases (w : WaylandWindow) (bo : Option BufferObject) :
    (∃ fault, w.created bo = .error fault) ∨
    ∃ ext calls, w.created bo = .ok (some (w.newBuffer .IDLE ext, calls)) := by
  cases bo with
  | none => exact .inl ⟨.nullPointer, rfl⟩
  | some bo =>
    by_cases plane : bo.planeCount = 1
    · by_cases complete : bo.framebufferComplete = true
      · exact .inr ⟨_, _, created_plane w plane complete⟩
      · exact .inl ⟨_, created_incomplete w plane complete⟩
    · exact .inr ⟨_, _, created_planes w plane⟩

/-- What a call of `DequeueBuffer` comes to. -/
inductive Outcome (w : WaylandWindow) (bo : Option BufferObject) : Except Fault Dequeued → Prop
  | found {i : Nat} (found : w.buffers_.find w.valid = some i) :
    Outcome w bo (.ok ⟨some i, w.setState i .BUSY, []⟩)
  | stopped {fault : Fault} (absent : w.buffers_.find w.valid = none)
      (stopped : w.created bo = .error fault) : Outcome w bo (.error fault)
  | made {ext : BufferExt} {calls : List GlCall} (absent : w.buffers_.find w.valid = none)
      (made : w.created bo = .ok (some (w.newBuffer .IDLE ext, calls))) :
    Outcome w bo (.ok ⟨some w.buffers_.next, w.replaceDirty (w.newBuffer .BUSY ext),
      calls ++ w.deleted⟩)

theorem lookup_replaceDirty {w : WaylandWindow} {buffer b : Buffer} {i : Nat} :
    (w.replaceDirty buffer).buffers_.lookup i = some b ↔
      i = w.buffers_.next ∧ b = buffer ∨ w.buffers_.lookup i = some b ∧ b.state ≠ .DIRTY := by
  rw [replaceDirty, Pool.lookup_push, Pool.lookup_keep, Pool.next_keep]
  split_ifs with last
  · have absent : w.buffers_.lookup i ≠ some b := by
      intro h
      exact absurd (Pool.lookup_lt h) (last ▸ Nat.lt_irrefl _)
    simp [last ▸ absent, last, eq_comm]
  · simp [last, Option.filter_eq_some_iff]

theorem lookup_new (w : WaylandWindow) (buffer : Buffer) :
    (w.replaceDirty buffer).buffers_.lookup w.buffers_.next = some buffer :=
  lookup_replaceDirty.mpr (.inl ⟨rfl, rfl⟩)

theorem lookup_kept {w : WaylandWindow} {i : Nat} {b : Buffer} (h : w.buffers_.lookup i = some b)
    (clean : b.state ≠ .DIRTY) (buffer : Buffer) :
    (w.replaceDirty buffer).buffers_.lookup i = some b :=
  lookup_replaceDirty.mpr (.inr ⟨h, clean⟩)

@[simp] theorem ext_setState (w : WaylandWindow) (i j : Nat) (state : BufferState) :
    (w.setState i state).ext j = w.ext j := Pool.map_lookup_modify fun _ => rfl

@[simp] theorem ext_release (w : WaylandWindow) (i j : Nat) : (w.release i).ext j = w.ext j :=
  Pool.map_lookup_modify fun _ => rfl

theorem ext_setNames (w : WaylandWindow) (i j texture fbo : Nat) :
    (w.setNames i texture fbo).ext j =
      (w.ext j).map fun e => if j = i then { e with texture, fbo } else e := by
  apply Option.ext
  intro e
  simp only [ext, setNames, Option.map_map, Option.map_eq_some_iff, Pool.lookup_modify]
  constructor
  · intro ⟨c, ⟨b, hb, hc⟩, he⟩
    refine ⟨b, hb, ?_⟩
    rw [← he, ← hc, Function.comp]
    split_ifs <;> rfl
  · intro ⟨b, hb, he⟩
    refine ⟨_, ⟨b, hb, rfl⟩, ?_⟩
    rw [← he, Function.comp]
    split_ifs <;> rfl

theorem ext_of_lookup {w : WaylandWindow} {i : Nat} {b : Buffer} (h : w.buffers_.lookup i = some b) :
    w.ext i = some b.ext := by
  rw [ext, h]
  rfl

theorem ext_lt {w : WaylandWindow} {i : Nat} {e : BufferExt} (h : w.ext i = some e) :
    i < w.buffers_.next := by
  obtain ⟨b, hb, -⟩ := Option.map_eq_some_iff.mp h
  exact Pool.lookup_lt hb

theorem ext_next (w : WaylandWindow) : w.ext w.buffers_.next = none := by
  apply Option.eq_none_iff_forall_not_mem.mpr
  intro e h
  exact absurd (ext_lt h) (Nat.lt_irrefl _)

/-- The buffers that are left are the new one and those that are not dirty. -/
theorem ext_replaceDirty {w : WaylandWindow} {buffer : Buffer} {i : Nat} {e : BufferExt} :
    (w.replaceDirty buffer).ext i = some e ↔
      i = w.buffers_.next ∧ e = buffer.ext ∨
      ∃ b, w.buffers_.lookup i = some b ∧ b.state ≠ .DIRTY ∧ b.ext = e := by
  simp only [ext, Option.map_eq_some_iff, lookup_replaceDirty]
  constructor
  · intro ⟨b, hb, he⟩
    cases hb with
    | inl new => exact .inl ⟨new.1, by rw [← he, new.2]⟩
    | inr old => exact .inr ⟨b, old.1, old.2, he⟩
  · intro h
    cases h with
    | inl new => exact ⟨buffer, .inl ⟨new.1, rfl⟩, new.2.symm⟩
    | inr old =>
      obtain ⟨b, hb, clean, he⟩ := old
      exact ⟨b, .inr ⟨hb, clean⟩, he⟩

theorem ext_of_replaceDirty {w : WaylandWindow} {buffer : Buffer} {i : Nat} {e : BufferExt}
    (old : i ≠ w.buffers_.next) (h : (w.replaceDirty buffer).ext i = some e) :
    w.ext i = some e := by
  obtain ⟨b, hb, -, rfl⟩ := (ext_replaceDirty.mp h).resolve_left fun new => old new.1
  exact ext_of_lookup hb

/-- A dirty buffer is gone. -/
theorem ext_replace_gone {w : WaylandWindow} {buffer b : Buffer} {i : Nat}
    (h : w.buffers_.lookup i = some b) (dirty : b.state = .DIRTY) :
    (w.replaceDirty buffer).ext i = none := by
  apply Option.eq_none_iff_forall_not_mem.mpr
  intro e he
  cases ext_replaceDirty.mp he with
  | inl new => exact absurd (Pool.lookup_lt h) (new.1 ▸ Nat.lt_irrefl _)
  | inr old =>
    obtain ⟨c, hc, clean, -⟩ := old
    rw [h] at hc
    exact clean (Option.some.inj hc ▸ dirty)

/-- Without dirty buffers, all are left. -/
theorem ext_replace_clean {w : WaylandWindow}
    (clean : ∀ i b, w.buffers_.lookup i = some b → b.state ≠ .DIRTY) {i : Nat}
    (old : i ≠ w.buffers_.next) (buffer : Buffer) : (w.replaceDirty buffer).ext i = w.ext i := by
  apply Option.ext
  intro e
  rw [ext_replaceDirty, ext, Option.map_eq_some_iff]
  constructor
  · intro h
    obtain ⟨b, hb, -, he⟩ := h.resolve_left fun new => old new.1
    exact ⟨b, hb, he⟩
  · intro ⟨b, hb, he⟩
    exact .inr ⟨b, hb, clean i b hb, he⟩

theorem deleted_clean {w : WaylandWindow}
    (clean : ∀ i b, w.buffers_.lookup i = some b → b.state ≠ .DIRTY) : w.deleted = [] := by
  have none : w.buffers_.selected (fun b => decide (b.state = .DIRTY)) = [] := by
    apply List.eq_nil_iff_forall_not_mem.mpr
    intro b hb
    obtain ⟨i, hi, dirty⟩ := Pool.mem_selected.mp hb
    exact clean i b hi (of_decide_eq_true dirty)
  rw [deleted, none]
  rfl

theorem setState_replaceDirty (w : WaylandWindow) (buffer : Buffer) (state : BufferState) :
    (w.replaceDirty buffer).setState w.buffers_.next state =
      w.replaceDirty { buffer with state } := by
  have modified := Pool.modify_push_next (P := w.buffers_.keep fun b => decide (b.state ≠ .DIRTY))
    (fun b : Buffer => { b with state }) buffer
  exact congrArg (WaylandWindow.mk · w.currentRect_) modified

/-- The buffer that was added is the first that is valid. -/
theorem find_replaceDirty (w : WaylandWindow) (absent : w.buffers_.find w.valid = none)
    {buffer : Buffer} (valid : w.valid buffer = true) :
    (w.replaceDirty buffer).buffers_.find (w.replaceDirty buffer).valid =
      some w.buffers_.next := by
  cases find : (w.replaceDirty buffer).buffers_.find (w.replaceDirty buffer).valid with
  | none =>
    have rejected := Pool.find_none.mp find w.buffers_.next buffer (w.lookup_new buffer)
    exact absurd valid (Bool.not_eq_true _ ▸ rejected)
  | some i =>
    obtain ⟨b, hb, accepted⟩ := Pool.find_some find
    cases lookup_replaceDirty.mp hb with
    | inl new => exact congrArg some new.1
    | inr old => exact absurd accepted (Bool.not_eq_true _ ▸ Pool.find_none.mp absent i b old.1)

/-- After at most one buffer that is created, the call returns. -/
theorem DequeueBuffer_outcome (w : WaylandWindow) (bos : Nat → Option BufferObject) :
    ∃ result, (∀ n, 2 ≤ n → DequeueBuffer n bos w = some result) ∧ Outcome w (bos 0) result := by
  cases find : w.buffers_.find w.valid with
  | some i =>
    refine ⟨_, ?_, .found find⟩
    intro n hn
    obtain ⟨n, rfl⟩ := Nat.exists_eq_add_of_le' (Nat.le_of_succ_le hn)
    rw [DequeueBuffer, find]
  | none =>
    obtain ⟨fault, stopped⟩ | ⟨ext, calls, made⟩ := w.created_cases (bos 0)
    · refine ⟨_, ?_, .stopped find stopped⟩
      intro n hn
      obtain ⟨n, rfl⟩ := Nat.exists_eq_add_of_le' (Nat.le_of_succ_le hn)
      rw [DequeueBuffer, find]
      simp only [stopped]
    · refine ⟨_, ?_, .made find made⟩
      intro n hn
      obtain ⟨n, rfl⟩ := Nat.exists_eq_add_of_le' hn
      have valid : w.valid (w.newBuffer .IDLE ext) = true := by
        rw [WaylandWindow.valid, fits_newBuffer]
        rfl
      rw [DequeueBuffer, find]
      simp only [made]
      rw [DequeueBuffer, w.find_replaceDirty find valid]
      simp only [Option.map_some, Except.map, List.append_nil, setState_replaceDirty, newBuffer]

end WaylandWindow

end Anbox.Fydeos
