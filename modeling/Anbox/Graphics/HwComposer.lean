import Anbox.Graphics.Rect
import Mathlib.Algebra.Group.Nat.Defs
import Mathlib.Data.List.Basic
import Mathlib.Data.List.Induction

namespace Anbox.Graphics.HwComposer

/-! The guest: `hwcSet` and what it sends. -/

structure CbHandle where
  version : Int
  numFds : Int
  numInts : Int
  magic : Int
  hostHandle : Nat
  deriving DecidableEq

def BUFFER_HANDLE_MAGIC : Int := (0xabfabfab : Int).bmod (2 ^ 32)

/-- `sizeof(nativeHandle)`, which is three ints. -/
def sizeofNativeHandle : Int := 12

/-- A handle has room for 24 ints, of which the descriptors take theirs. -/
def CB_HANDLE_NUM_INTS (nfds : Int) : Int := (24 - nfds).bmod (2 ^ 32)

def CbHandle.validate : Option CbHandle → Bool
  | none => false
  | some hnd => decide (hnd.version = sizeofNativeHandle ∧ hnd.magic = BUFFER_HANDLE_MAGIC ∧
      hnd.numInts = CB_HANDLE_NUM_INTS hnd.numFds)

/-- The flags are those that `hwcSet` looks at. -/
structure HwcLayer1 where
  name : String
  HWC_SKIP_LAYER : Bool
  HWC_IS_CURSOR_LAYER : Bool
  handle : Option CbHandle
  planeAlpha : Nat
  sourceCrop : Rect
  displayFrame : Rect
  deriving DecidableEq

inductive Message where
  | rcPostLayer (name : String) (colorBuffer alpha : Nat)
      (sourceCropLeft sourceCropTop sourceCropRight sourceCropBottom : Int)
      (displayFrameLeft displayFrameTop displayFrameRight displayFrameBottom : Int)
  | rcPostAllLayersDone
  deriving DecidableEq

/-- What `hwcSet` returns: zero, or a negated error. -/
inductive Status where
  | zero
  | efault
  | eio
  | einval
  deriving DecidableEq

/-- A call of `hwcSet` with the layers of the first display, if there is one; `rcEnc` says that
there are a host connection and its encoder. -/
structure Call where
  rcEnc : Bool
  displays : Option (List HwcLayer1)

def HwcLayer1.flagged (layer : HwcLayer1) : Bool :=
  layer.HWC_SKIP_LAYER || layer.HWC_IS_CURSOR_LAYER

def HwcLayer1.post (layer : HwcLayer1) (cb : CbHandle) : Message :=
  .rcPostLayer layer.name cb.hostHandle (layer.planeAlpha / 255)
    layer.sourceCrop.left_ layer.sourceCrop.top_ layer.sourceCrop.right_ layer.sourceCrop.bottom_
    layer.displayFrame.left_ layer.displayFrame.top_ layer.displayFrame.right_
    layer.displayFrame.bottom_

/-- The loop over the layers: what it sends, and whether it comes to its end. -/
def postLayers : List HwcLayer1 → List Message × Bool
  | [] => ([], true)
  | layer :: layers =>
    if layer.flagged then postLayers layers
    else
      match layer.handle with
      | none => ([], false)
      | some cb =>
        if CbHandle.validate (some cb) then
          (layer.post cb :: (postLayers layers).1, (postLayers layers).2)
        else ([], false)

def hwcSet (call : Call) : List Message × Status :=
  match call.displays with
  | none => ([], .efault)
  | some layers =>
    if call.rcEnc = false then ([], .eio)
    else if (postLayers layers).2 = false then ((postLayers layers).1, .einval)
    else ((postLayers layers).1 ++ [.rcPostAllLayersDone], .zero)

/-! The host: `RenderControl` and its list of layers. -/

structure Renderable where
  name_ : String
  buffer_ : Nat
  alpha_ : Nat
  screenPosition_ : Rect
  crop_ : Rect
  deriving DecidableEq

/-- `submitted` are the lists `submitLayers` was called with. -/
structure Host where
  composer : Bool
  frameLayers : List Renderable
  submitted : List (List Renderable)

namespace Host

def init (composer : Bool) : Host := { composer, frameLayers := [], submitted := [] }

def rcPostAllLayersDone (h : Host) : Host :=
  { h with
    submitted := if h.composer then h.submitted ++ [h.frameLayers] else h.submitted
    frameLayers := [] }

def receive (h : Host) : Message → Host
  | .rcPostLayer name colorBuffer alpha sourceCropLeft sourceCropTop sourceCropRight
      sourceCropBottom displayFrameLeft displayFrameTop displayFrameRight displayFrameBottom =>
    { h with
      frameLayers := h.frameLayers ++ [⟨name, colorBuffer, alpha,
        ⟨displayFrameLeft, displayFrameTop, displayFrameRight, displayFrameBottom⟩,
        ⟨sourceCropLeft, sourceCropTop, sourceCropRight, sourceCropBottom⟩⟩] }
  | .rcPostAllLayersDone => h.rcPostAllLayersDone

/-- The host behind a call: it receives what was sent, in order. -/
def behind (h : Host) (call : Call) : Host := (hwcSet call).1.foldl receive h

/-- The host behind a sequence of calls. -/
def run (composer : Bool) (calls : List Call) : Host := calls.foldl behind (init composer)

end Host

/-- A layer with its own buffer, crop and display frame. -/
def HwcLayer1.renderable (layer : HwcLayer1) (cb : CbHandle) : Renderable where
  name_ := layer.name
  buffer_ := cb.hostHandle
  alpha_ := layer.planeAlpha / 255
  screenPosition_ := layer.displayFrame
  crop_ := layer.sourceCrop

/-- The layers of a call that are flagged neither skip nor cursor, in order. -/
def Call.frame (call : Call) : List Renderable :=
  ((call.displays.getD []).filter fun layer => !layer.flagged).filterMap fun layer =>
    layer.handle.map layer.renderable

/-- What is submitted in the course of a call are the layers of this call. -/
def Atomic (composer : Bool) (calls : List Call) : Prop :=
  ∀ before call after, calls = before ++ call :: after → ∃ new,
    (Host.run composer (before ++ [call])).submitted = (Host.run composer before).submitted ++ new ∧
      ∀ layers ∈ new, layers = call.frame

def Call.completes (call : Call) : Bool := decide ((hwcSet call).2 = .zero)

/-- A call that fails has sent none of its layers before, if a call that completes comes behind it
and none in between. -/
def NoneLeft (calls : List Call) : Prop :=
  ∀ before failing between call after, calls = before ++ failing :: (between ++ call :: after) →
    failing.completes = false → (∀ c ∈ between, c.completes = false) → call.completes = true →
    (hwcSet failing).1 = []

/-! What a call makes of the host's list. -/

def Message.renderable : Message → Option Renderable
  | .rcPostLayer name colorBuffer alpha sourceCropLeft sourceCropTop sourceCropRight
      sourceCropBottom displayFrameLeft displayFrameTop displayFrameRight displayFrameBottom =>
    some ⟨name, colorBuffer, alpha,
      ⟨displayFrameLeft, displayFrameTop, displayFrameRight, displayFrameBottom⟩,
      ⟨sourceCropLeft, sourceCropTop, sourceCropRight, sourceCropBottom⟩⟩
  | .rcPostAllLayersDone => none

/-- The layers a call sends. -/
def Call.posted (call : Call) : List Renderable := (hwcSet call).1.filterMap Message.renderable

theorem post_ne_done {layers : List HwcLayer1} {m : Message} (h : m ∈ (postLayers layers).1) :
    m ≠ .rcPostAllLayersDone := by
  induction layers with
  | nil => simp [postLayers] at h
  | cons layer layers ih =>
    unfold postLayers at h
    split at h
    · exact ih h
    · split at h
      · simp at h
      · split at h
        · cases List.mem_cons.mp h with
          | inl head => rw [head]; simp [HwcLayer1.post]
          | inr rest => exact ih rest
        · simp at h

/-- The loop sends the layers that are not flagged when it comes to its end. -/
theorem postLayers_complete {layers : List HwcLayer1} (h : (postLayers layers).2 = true) :
    (postLayers layers).1.filterMap Message.renderable =
      (layers.filter fun layer => !layer.flagged).filterMap fun layer =>
        layer.handle.map layer.renderable := by
  induction layers with
  | nil => rfl
  | cons layer layers ih =>
    unfold postLayers at h ⊢
    cases flagged : layer.flagged with
    | true => simpa [flagged] using ih (by simpa [flagged] using h)
    | false =>
      cases handle : layer.handle with
      | none => simp [flagged, handle] at h
      | some cb =>
        cases valid : CbHandle.validate (some cb) with
        | false => simp [flagged, handle, valid] at h
        | true =>
          have rest := ih (by simpa [flagged, handle, valid] using h)
          have own : (layer.post cb).renderable = some (layer.renderable cb) := rfl
          simp [flagged, handle, valid, own, rest]

/-- A call that fails does not send the marker. -/
theorem failing_posts {call : Call} (fails : call.completes = false) {m : Message}
    (hm : m ∈ (hwcSet call).1) : m ≠ .rcPostAllLayersDone := by
  have failed : (hwcSet call).2 ≠ .zero := by simpa [Call.completes] using fails
  unfold hwcSet at hm failed
  split at hm
  · simp at hm
  · rename_i layers displays
    rw [displays] at failed
    split_ifs at hm failed
    · simp at hm
    · exact post_ne_done hm
    · rename_i loop
      simp [loop] at failed

theorem posted_eq_nil {call : Call} (fails : call.completes = false) :
    call.posted = [] ↔ (hwcSet call).1 = [] := by
  constructor
  · intro none
    apply List.eq_nil_iff_forall_not_mem.mpr
    intro m hm
    have lost := List.filterMap_eq_nil_iff.mp none m hm
    cases m with
    | rcPostLayer => cases lost
    | rcPostAllLayersDone => exact failing_posts fails hm rfl
  · intro none
    rw [Call.posted, none, List.filterMap_nil]

namespace Host

/-- Layers that are posted come behind those the host has. -/
theorem foldl_receive {ms : List Message} (h : Host) (posts : ∀ {m}, m ∈ ms → m ≠ .rcPostAllLayersDone) :
    ms.foldl receive h =
      { h with frameLayers := h.frameLayers ++ ms.filterMap Message.renderable } := by
  induction ms generalizing h with
  | nil => simp
  | cons m ms ih =>
    rw [List.foldl_cons, ih _ fun hm => posts (List.mem_cons_of_mem _ hm)]
    cases m with
    | rcPostLayer => simp [receive, Message.renderable]
    | rcPostAllLayersDone => exact absurd rfl (posts List.mem_cons_self)

theorem behind_failing (h : Host) {call : Call} (fails : call.completes = false) :
    h.behind call = { h with frameLayers := h.frameLayers ++ call.posted } :=
  foldl_receive h (failing_posts fails)

theorem behind_completing (h : Host) {call : Call} (completes : call.completes = true) :
    h.behind call =
      { h with frameLayers := h.frameLayers ++ call.frame }.rcPostAllLayersDone := by
  have done : (hwcSet call).2 = .zero := by simpa [Call.completes] using completes
  unfold behind hwcSet Call.frame at *
  split at done
  · cases done
  · rename_i layers displays
    split_ifs at done ⊢ with rcEnc loop
    rw [List.foldl_append, foldl_receive h post_ne_done,
      postLayers_complete (by simpa using loop), displays]
    rfl

theorem run_concat (composer : Bool) (calls : List Call) (call : Call) :
    run composer (calls ++ [call]) = (run composer calls).behind call := by
  rw [run, List.foldl_concat]
  rfl

theorem run_composer (composer : Bool) (calls : List Call) :
    (run composer calls).composer = composer := by
  induction calls using List.reverseRecOn with
  | nil => rfl
  | append_singleton calls call ih =>
    rw [run_concat]
    cases h : call.completes with
    | false => rw [behind_failing _ h, ih]
    | true => rw [behind_completing _ h]; exact ih

/-- Calls that fail only add to the list. -/
theorem frameLayers_failing (composer : Bool) (before : List Call) {calls : List Call}
    (fails : ∀ c ∈ calls, c.completes = false) :
    (run composer (before ++ calls)).frameLayers =
      (run composer before).frameLayers ++ calls.flatMap Call.posted := by
  induction calls using List.reverseRecOn with
  | nil => simp
  | append_singleton calls call ih =>
    rw [← List.append_assoc, run_concat, behind_failing _ (fails call (by simp)),
      ih fun c hc => fails c (by simp [hc])]
    simp

/-- Layers that are left over come from a failing call behind which none completes. -/
theorem left_over {composer : Bool} {calls : List Call}
    (h : (run composer calls).frameLayers ≠ []) :
    ∃ before failing between, calls = before ++ failing :: between ∧ failing.completes = false ∧
      (∀ c ∈ between, c.completes = false) ∧ failing.posted ≠ [] := by
  induction calls using List.reverseRecOn with
  | nil => exact absurd rfl h
  | append_singleton calls call ih =>
    rw [run_concat] at h
    cases completes : call.completes with
    | true =>
      rw [behind_completing _ completes] at h
      exact absurd rfl h
    | false =>
      by_cases posted : call.posted = []
      · rw [behind_failing _ completes, posted, List.append_nil] at h
        obtain ⟨before, failing, between, rfl, fails, none, left⟩ := ih h
        refine ⟨before, failing, between ++ [call], by simp, fails, ?_, left⟩
        intro c hc
        cases List.mem_append.mp hc with
        | inl hc => exact none c hc
        | inr hc => rwa [List.mem_singleton.mp hc]
      · exact ⟨calls, call, [], by simp, completes, by simp, posted⟩

end Host

/-- Each submission holds the layers of one call exactly when no call that fails leaves layers for
one that completes. -/
theorem atomic_iff (composer : Bool) (calls : List Call) :
    Atomic composer calls ↔ composer = true → NoneLeft calls := by
  constructor
  · rintro atomic rfl before failing between call after cut fails none completes
    obtain ⟨new, submitted, own⟩ := atomic (before ++ failing :: between) call after (by simp [cut])
    have composer := Host.run_composer true (before ++ failing :: between)
    rw [Host.run_concat, Host.behind_completing _ completes, Host.rcPostAllLayersDone, if_pos composer,
      List.append_cancel_left_eq] at submitted
    have mixed := own _ (submitted ▸ List.mem_singleton_self _)
    have left := List.append_left_eq_self.mp mixed
    rw [Host.frameLayers_failing true before (List.forall_mem_cons.mpr ⟨fails, none⟩)] at left
    have posted := (List.append_eq_nil_iff.mp left).2
    exact (posted_eq_nil fails).mp (List.append_eq_nil_iff.mp posted).1
  · intro noneLeft before call after cut
    rw [Host.run_concat]
    cases completes : call.completes with
    | false =>
      refine ⟨[], ?_, by simp⟩
      rw [Host.behind_failing _ completes, List.append_nil]
    | true =>
      rw [Host.behind_completing _ completes, Host.rcPostAllLayersDone]
      have kept := Host.run_composer composer before
      cases composer with
      | false => exact ⟨[], by simp [kept], by simp⟩
      | true =>
        refine ⟨[(Host.run true before).frameLayers ++ call.frame], by simp [kept], ?_⟩
        have clean : (Host.run true before).frameLayers = [] := by
          by_contra left
          obtain ⟨first, failing, between, rfl, fails, none, posted⟩ := Host.left_over left
          apply posted
          apply (posted_eq_nil fails).mpr
          exact noneLeft rfl first failing between call after (by simp [cut]) fails none completes
        intro layers hl
        rw [List.mem_singleton.mp hl, clean, List.nil_append]

/-- A layer with the buffer `hostHandle`, on the left half of the display. -/
def leftHalf (name : String) (hostHandle : Nat) : HwcLayer1 where
  name := name
  HWC_SKIP_LAYER := false
  HWC_IS_CURSOR_LAYER := false
  handle := some ⟨sizeofNativeHandle, 0, CB_HANDLE_NUM_INTS 0, BUFFER_HANDLE_MAGIC, hostHandle⟩
  planeAlpha := 255
  sourceCrop := ⟨0, 0, 640, 720⟩
  displayFrame := ⟨0, 0, 640, 720⟩

def withoutBuffer : HwcLayer1 := { leftHalf "b" 2 with handle := none }

/-- The second layer of the first call has no buffer, and its first one shows up in the next
frame. -/
theorem partial_frame : ¬ ∀ composer calls, Atomic composer calls := by
  intro h
  obtain ⟨new, submitted, own⟩ :=
    h true [⟨true, some [leftHalf "a" 1, withoutBuffer]⟩, ⟨true, some [leftHalf "c" 3]⟩]
      [_] _ [] rfl
  have mixed : [[⟨"a", 1, 1, ⟨0, 0, 640, 720⟩, ⟨0, 0, 640, 720⟩⟩,
      ⟨"c", 3, 1, ⟨0, 0, 640, 720⟩, ⟨0, 0, 640, 720⟩⟩]] = new := submitted
  have alone := own _ (mixed ▸ List.mem_singleton_self _)
  exact absurd alone (by decide)

end Anbox.Graphics.HwComposer
