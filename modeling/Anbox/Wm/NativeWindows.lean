import Anbox.Framework.Latest
import Anbox.Framework.Run
import Anbox.Wm.MultiWindowManager

namespace Anbox.Wm.NativeWindows

open Anbox.Framework
open Anbox.Wm.MultiWindowManager (Effect)

/-- An `EGLNativeWindowType`. -/
abbrev Handle := Nat

structure RendererWindow where
  nativeWindow : Handle
  deriving DecidableEq

/-- The map `mNativeWindows` of the renderer. -/
abbrev RendererWindows := Handle → Option RendererWindow

/-- `made` tells that there is a surface and that the window's buffer is bound. What stands in the map
already is not replaced. -/
def createNativeWindow (m : RendererWindows) (nativeWindow : Handle) (made : Bool) :
    Bool × RendererWindows :=
  if made then
    match m nativeWindow with
    | none => (true, Function.update m nativeWindow (some ⟨nativeWindow⟩))
    | some _ => (true, m)
  else (false, m)

def destroyNativeWindow (m : RendererWindows) (nativeWindow : Handle) : RendererWindows :=
  match m nativeWindow with
  | none => m
  | some _ => Function.update m nativeWindow none

/-- A window; `nativeHandle` is what the class it was made of returns. -/
structure Window where
  nativeHandle : Handle
  renderer_ : Bool
  attached_ : Bool
  deriving DecidableEq

namespace Window

def attach (w : Window) (m : RendererWindows) (made : Bool) : Window × RendererWindows :=
  if !w.renderer_ then (w, m)
  else
    ({ w with attached_ := (createNativeWindow m w.nativeHandle made).1 },
      (createNativeWindow m w.nativeHandle made).2)

def release (w : Window) (nativeHandle : Handle) (m : RendererWindows) : RendererWindows :=
  if !w.renderer_ || !w.attached_ then m else destroyNativeWindow m nativeHandle

/-- In the destructor `nativeHandle` is that of the base class, which returns 0. -/
def destruct (w : Window) (m : RendererWindows) : RendererWindows := w.release 0 m

end Window

/-- The windows there are, by the number of their creation. A window is `attached` from the attach that
succeeds to its release. -/
structure State where
  windows : Nat → Option Window
  created : Nat
  attached : Nat → Bool
  mNativeWindows : RendererWindows

def init : State where
  windows := fun _ => none
  created := 0
  attached := fun _ => false
  mNativeWindows := fun _ => none

inductive Action where
  | create (nativeHandle : Handle) (renderer_ : Bool)
  | attach (i : Nat) (made : Bool)
  | release (i : Nat)
  | destroy (i : Nat)
  deriving DecidableEq

/-- A handle is an address or a number that no window there is has. -/
def Free (s : State) (nativeHandle : Handle) : Prop :=
  nativeHandle ≠ 0 ∧
    ∀ i < s.created, ∀ w ∈ s.windows i, w.renderer_ = true → w.nativeHandle ≠ nativeHandle

instance (s : State) (nativeHandle : Handle) : Decidable (Free s nativeHandle) :=
  inferInstanceAs (Decidable (_ ∧ _))

/-- Windows without a renderer have no handle. `~WaylandWindow` begins with a breakpoint; a run goes
on where that is passed. -/
def step (s : State) : Action → Option State
  | .create nativeHandle renderer_ =>
    if renderer_ = true → Free s nativeHandle then some
      { s with
        windows := Function.update s.windows s.created (some ⟨nativeHandle, renderer_, false⟩)
        created := s.created + 1 }
    else none
  | .attach i made =>
    (s.windows i).map fun w =>
      { s with
        windows := Function.update s.windows i (some (w.attach s.mNativeWindows made).1)
        attached := Function.update s.attached i (s.attached i || w.renderer_ && made)
        mNativeWindows := (w.attach s.mNativeWindows made).2 }
  | .release i =>
    (s.windows i).map fun w =>
      { s with
        attached := Function.update s.attached i false
        mNativeWindows := w.release w.nativeHandle s.mNativeWindows }
  | .destroy i =>
    (s.windows i).map fun w =>
      { s with
        windows := Function.update s.windows i none
        attached := Function.update s.attached i false
        mNativeWindows := w.destruct s.mNativeWindows }

/-- The window is there and attached. -/
def Shown (s : State) (i : Nat) (w : Window) : Prop := s.windows i = some w ∧ s.attached i = true

/-- Each window that is shown has its entry, and each entry is that of one such window. -/
structure Mirrors (s : State) : Prop where
  entry : ∀ i w, Shown s i w → s.mNativeWindows w.nativeHandle = some ⟨w.nativeHandle⟩
  owner : ∀ h r, s.mNativeWindows h = some r → ∃! i, ∃ w, Shown s i w ∧ w.nativeHandle = h

/-- The condition on a step: no attached window is released after an attach of it has failed, and none
is destroyed. -/
def Proper (s : State) : Action → Prop
  | .create _ _ | .attach _ _ => True
  | .release i => ∀ w, Shown s i w → w.attached_ = true
  | .destroy i => s.attached i = false

/-- The windows of a renderer have handles of their own. -/
structure Handles (windows : Nat → Option Window) (created : Nat) : Prop where
  eq_of_handle : ∀ i j v w, windows i = some v → windows j = some w → v.renderer_ = true →
    w.renderer_ = true → v.nativeHandle = w.nativeHandle → i = j
  nonzero : ∀ i w, windows i = some w → w.renderer_ = true → w.nativeHandle ≠ 0
  numbered : ∀ i w, windows i = some w → i < created

structure Inv (s : State) : Prop where
  handles : Handles s.windows s.created
  shown : ∀ i, s.attached i = true → ∃ w, s.windows i = some w ∧ w.renderer_ = true
  mirrors : Mirrors s

variable {s t : State} {windows : Nat → Option Window} {created i : Nat} {w w' : Window}
  {m : RendererWindows} {h : Handle}

/-! The renderer's map. -/

theorem createNativeWindow_made (own : ∀ r, m h = some r → r = ⟨h⟩) :
    createNativeWindow m h true = (true, Function.update m h (some ⟨h⟩)) := by
  unfold createNativeWindow
  rw [if_pos rfl]
  cases there : m h with
  | none => rfl
  | some r =>
    dsimp only
    rw [own r there] at there
    rw [Function.update_eq_self_iff.mpr there.symm]

theorem destroyNativeWindow_eq (m : RendererWindows) (h : Handle) :
    destroyNativeWindow m h = Function.update m h none := by
  unfold destroyNativeWindow
  cases there : m h with
  | none => exact (Function.update_eq_self_iff.mpr there.symm).symm
  | some r => rfl

theorem release_eq (w : Window) (h : Handle) (m : RendererWindows) : w.release h m =
    if w.renderer_ = true ∧ w.attached_ = true then Function.update m h none else m := by
  unfold Window.release
  rw [destroyNativeWindow_eq]
  cases w.renderer_ <;> cases w.attached_ <;> rfl

/-! The windows. -/

namespace Handles

theorem create (H : Handles windows created) {renderer_ : Bool}
    (free : renderer_ = true → h ≠ 0 ∧
      ∀ i < created, ∀ w ∈ windows i, w.renderer_ = true → w.nativeHandle ≠ h) :
    Handles (Function.update windows created (some ⟨h, renderer_, false⟩)) (created + 1) := by
  have new : ∀ j v, Function.update windows created (some ⟨h, renderer_, false⟩) j = some v →
      j = created ∧ v = ⟨h, renderer_, false⟩ ∨ windows j = some v := by
    intro j v hv
    by_cases last : j = created
    · rw [last, Function.update_self] at hv
      exact Or.inl ⟨last, (Option.some.inj hv).symm⟩
    · rw [Function.update_of_ne last] at hv
      exact Or.inr hv
  refine ⟨?_, ?_, ?_⟩
  · intro i j v w hv hw rv rw_ same
    cases new i v hv with
    | inl first =>
      obtain ⟨rfl, rfl⟩ := first
      cases new j w hw with
      | inl second => exact second.1.symm
      | inr old => exact absurd same.symm ((free rv).2 j (H.numbered j w old) w old rw_)
    | inr first =>
      cases new j w hw with
      | inl second =>
        obtain ⟨rfl, rfl⟩ := second
        exact absurd same ((free rw_).2 i (H.numbered i v first) v first rv)
      | inr old => exact H.eq_of_handle i j v w first old rv rw_ same
  · intro i w hw renderer
    cases new i w hw with
    | inl last =>
      obtain ⟨-, rfl⟩ := last
      exact (free renderer).1
    | inr old => exact H.nonzero i w old renderer
  · intro i w hw
    cases new i w hw with
    | inl last => exact last.1 ▸ Nat.lt_succ_self _
    | inr old => exact Nat.lt_succ_of_lt (H.numbered i w old)

/-- Windows may go, and change but for their handle. -/
theorem kept (H : Handles windows created) {windows' : Nat → Option Window}
    (old : ∀ j v, windows' j = some v → ∃ v', windows j = some v' ∧
      v'.nativeHandle = v.nativeHandle ∧ v'.renderer_ = v.renderer_) :
    Handles windows' created := by
  refine ⟨?_, ?_, ?_⟩
  · intro i j v w hv hw rv rw_ same
    obtain ⟨v', hv', handle, renderer⟩ := old i v hv
    obtain ⟨w', hw', handle', renderer'⟩ := old j w hw
    apply H.eq_of_handle i j v' w' hv' hw' (renderer.trans rv) (renderer'.trans rw_)
    rw [handle, handle', same]
  · intro i w hw renderer
    obtain ⟨w', hw', handle, same⟩ := old i w hw
    exact handle ▸ H.nonzero i w' hw' (same.trans renderer)
  · intro i w hw
    obtain ⟨w', hw', -, -⟩ := old i w hw
    exact H.numbered i w' hw'

end Handles

/-- Windows that are shown have handles of their own. -/
theorem shown_unique (H : Handles s.windows s.created)
    (shown : ∀ i, s.attached i = true → ∃ w, s.windows i = some w ∧ w.renderer_ = true) {j : Nat}
    {v : Window} (hi : Shown s i w) (hj : Shown s j v) (same : v.nativeHandle = w.nativeHandle) :
    j = i := by
  obtain ⟨w₁, hw₁, renderer⟩ := shown i hi.2
  obtain rfl := Option.some.inj (hi.1.symm.trans hw₁)
  obtain ⟨v₁, hv₁, renderer'⟩ := shown j hj.2
  obtain rfl := Option.some.inj (hj.1.symm.trans hv₁)
  exact H.eq_of_handle j i v w hj.1 hi.1 renderer' renderer same

theorem mirrors_of (H : Handles s.windows s.created)
    (shown : ∀ i, s.attached i = true → ∃ w, s.windows i = some w ∧ w.renderer_ = true)
    (entry : ∀ i w, Shown s i w → s.mNativeWindows w.nativeHandle = some ⟨w.nativeHandle⟩)
    (owned : ∀ h r, s.mNativeWindows h = some r → ∃ i w, Shown s i w ∧ w.nativeHandle = h) :
    Mirrors s where
  entry := entry
  owner := by
    intro h r hr
    obtain ⟨i, w, hi, rfl⟩ := owned h r hr
    refine ⟨i, ⟨w, hi, rfl⟩, ?_⟩
    intro j hj
    obtain ⟨v, hv, same⟩ := hj
    exact shown_unique H shown hi hv same

namespace Inv

theorem owned (I : Inv s) {r : RendererWindow} (hr : s.mNativeWindows h = some r) :
    ∃ i w, Shown s i w ∧ w.nativeHandle = h := by
  obtain ⟨i, hi, -⟩ := I.mirrors.owner h r hr
  exact ⟨i, hi⟩

theorem renderer (I : Inv s) (hi : Shown s i w) : w.renderer_ = true := by
  obtain ⟨v, hv, renderer⟩ := I.shown i hi.2
  obtain rfl := Option.some.inj (hi.1.symm.trans hv)
  exact renderer

/-- No entry stands under the handle of a window that is not attached. -/
theorem no_entry (I : Inv s) (hw : s.windows i = some w) (renderer : w.renderer_ = true)
    (hidden : s.attached i = false) : s.mNativeWindows w.nativeHandle = none := by
  cases there : s.mNativeWindows w.nativeHandle with
  | none => rfl
  | some r =>
    obtain ⟨j, v, hj, same⟩ := I.owned there
    obtain rfl := I.handles.eq_of_handle j i v w hj.1 hw (I.renderer hj) renderer same
    rw [hj.2] at hidden
    cases hidden

theorem no_entry_zero (I : Inv s) : s.mNativeWindows 0 = none := by
  cases there : s.mNativeWindows 0 with
  | none => rfl
  | some r =>
    obtain ⟨i, w, hi, zero⟩ := I.owned there
    exact absurd zero (I.handles.nonzero i w hi.1 (I.renderer hi))

theorem create (I : Inv s) {renderer_ : Bool} (free : renderer_ = true → Free s h) :
    Inv { s with
      windows := Function.update s.windows s.created (some ⟨h, renderer_, false⟩)
      created := s.created + 1 } := by
  have old : ∀ j, s.attached j = true →
      Function.update s.windows s.created (some ⟨h, renderer_, false⟩) j = s.windows j := by
    intro j attached
    obtain ⟨w, hw, -⟩ := I.shown j attached
    exact Function.update_of_ne (Nat.ne_of_lt (I.handles.numbered j w hw)) ..
  have H := I.handles.create free
  have shown : ∀ j, s.attached j = true →
      ∃ w, Function.update s.windows s.created (some ⟨h, renderer_, false⟩) j = some w ∧
        w.renderer_ = true := by
    intro j attached
    rw [old j attached]
    exact I.shown j attached
  refine ⟨H, shown, mirrors_of H shown ?_ ?_⟩
  · intro j v hj
    exact I.mirrors.entry j v ⟨(old j hj.2).symm.trans hj.1, hj.2⟩
  · intro k r hr
    obtain ⟨j, v, hj, same⟩ := I.owned hr
    exact ⟨j, v, ⟨(old j hj.2).trans hj.1, hj.2⟩, same⟩

/-- What is remembered of an attach does not matter to the map. -/
theorem remember (I : Inv s) (hw : s.windows i = some w) (attached_ : Bool) :
    Inv { s with windows := Function.update s.windows i (some { w with attached_ := attached_ }) } := by
  have old : ∀ j v, Function.update s.windows i (some { w with attached_ := attached_ }) j = some v →
      ∃ v', s.windows j = some v' ∧ v'.nativeHandle = v.nativeHandle ∧
        v'.renderer_ = v.renderer_ := by
    intro j v hv
    by_cases same : j = i
    · subst same
      rw [Function.update_self] at hv
      obtain rfl := Option.some.inj hv
      exact ⟨w, hw, rfl, rfl⟩
    · rw [Function.update_of_ne same] at hv
      exact ⟨v, hv, rfl, rfl⟩
  have new : ∀ j v, s.windows j = some v →
      ∃ v', Function.update s.windows i (some { w with attached_ := attached_ }) j = some v' ∧
        v'.nativeHandle = v.nativeHandle ∧ v'.renderer_ = v.renderer_ := by
    intro j v hv
    by_cases same : j = i
    · subst same
      obtain rfl := Option.some.inj (hw.symm.trans hv)
      exact ⟨_, Function.update_self .., rfl, rfl⟩
    · exact ⟨v, (Function.update_of_ne same ..).trans hv, rfl, rfl⟩
  have H := I.handles.kept old
  have shown : ∀ j, s.attached j = true →
      ∃ v, Function.update s.windows i (some { w with attached_ := attached_ }) j = some v ∧
        v.renderer_ = true := by
    intro j attached
    obtain ⟨v, hv, renderer⟩ := I.shown j attached
    obtain ⟨v', hv', -, same⟩ := new j v hv
    exact ⟨v', hv', same.trans renderer⟩
  refine ⟨H, shown, mirrors_of H shown ?_ ?_⟩
  · intro j v hj
    obtain ⟨v', hv', handle, -⟩ := old j v hj.1
    rw [← handle]
    exact I.mirrors.entry j v' ⟨hv', hj.2⟩
  · intro k r hr
    obtain ⟨j, v, hj, rfl⟩ := I.owned hr
    obtain ⟨v', hv', handle, -⟩ := new j v hj.1
    exact ⟨j, v', ⟨hv', hj.2⟩, handle⟩

/-- A window is attached, or attached once more. -/
theorem shows (I : Inv s) (hw : s.windows i = some w) (renderer : w.renderer_ = true) :
    Inv { s with
      attached := Function.update s.attached i true
      mNativeWindows :=
        Function.update s.mNativeWindows w.nativeHandle (some ⟨w.nativeHandle⟩) } := by
  have shown : ∀ j, Function.update s.attached i true j = true →
      ∃ v, s.windows j = some v ∧ v.renderer_ = true := by
    intro j attached
    by_cases same : j = i
    · exact ⟨w, same ▸ hw, renderer⟩
    · rw [Function.update_of_ne same] at attached
      exact I.shown j attached
  refine ⟨I.handles, shown, mirrors_of I.handles shown ?_ ?_⟩
  · intro j v hj
    by_cases handle : v.nativeHandle = w.nativeHandle
    · dsimp only
      rw [handle, Function.update_self]
    · have other : j ≠ i := by
        rintro rfl
        obtain rfl := Option.some.inj (hw.symm.trans hj.1)
        exact handle rfl
      dsimp only
      rw [Function.update_of_ne handle]
      exact I.mirrors.entry j v ⟨hj.1, (Function.update_of_ne other ..).symm.trans hj.2⟩
  · intro k r hr
    by_cases handle : k = w.nativeHandle
    · exact ⟨i, w, ⟨hw, Function.update_self ..⟩, handle.symm⟩
    · dsimp only at hr
      rw [Function.update_of_ne handle] at hr
      obtain ⟨j, v, hj, same⟩ := I.owned hr
      by_cases here : j = i
      · exact ⟨j, v, ⟨hj.1, here ▸ Function.update_self ..⟩, same⟩
      · exact ⟨j, v, ⟨hj.1, (Function.update_of_ne here ..).trans hj.2⟩, same⟩

/-- An attached window is released. -/
theorem hides (I : Inv s) (hi : Shown s i w) :
    Inv { s with
      attached := Function.update s.attached i false
      mNativeWindows := Function.update s.mNativeWindows w.nativeHandle none } := by
  have old := fun j => (update_eq_iff_of_ne (f := s.attached) (k := i) Bool.false_ne_true j).mp
  have shown := fun j attached => I.shown j (old j attached).2
  refine ⟨I.handles, shown, mirrors_of I.handles shown ?_ ?_⟩
  · intro j v hj
    obtain ⟨other, attached⟩ := old j hj.2
    have handle : v.nativeHandle ≠ w.nativeHandle :=
      fun same => other (shown_unique I.handles I.shown hi ⟨hj.1, attached⟩ same)
    dsimp only
    rw [Function.update_of_ne handle]
    exact I.mirrors.entry j v ⟨hj.1, attached⟩
  · intro k r hr
    by_cases handle : k = w.nativeHandle
    · dsimp only at hr
      rw [handle, Function.update_self] at hr
      cases hr
    · dsimp only at hr
      rw [Function.update_of_ne handle] at hr
      obtain ⟨j, v, hj, same⟩ := I.owned hr
      have other : j ≠ i := by
        rintro rfl
        obtain rfl := Option.some.inj (hi.1.symm.trans hj.1)
        exact handle same.symm
      exact ⟨j, v, ⟨hj.1, (Function.update_of_ne other ..).trans hj.2⟩, same⟩

/-- A window goes that is not attached. -/
theorem remove (I : Inv s) (hidden : s.attached i = false) :
    Inv { s with windows := Function.update s.windows i none } := by
  have kept : ∀ j, s.attached j = true → Function.update s.windows i none j = s.windows j := by
    intro j attached
    have other : j ≠ i := by
      rintro rfl
      rw [attached] at hidden
      cases hidden
    exact Function.update_of_ne other ..
  have H : Handles (Function.update s.windows i none) s.created := by
    apply I.handles.kept
    intro j v hv
    obtain ⟨-, hv⟩ := (update_eq_iff_of_ne (Option.some_ne_none v).symm j).mp hv
    exact ⟨v, hv, rfl, rfl⟩
  have shown : ∀ j, s.attached j = true →
      ∃ v, Function.update s.windows i none j = some v ∧ v.renderer_ = true := by
    intro j attached
    rw [kept j attached]
    exact I.shown j attached
  refine ⟨H, shown, mirrors_of H shown ?_ ?_⟩
  · intro j v hj
    exact I.mirrors.entry j v ⟨(kept j hj.2).symm.trans hj.1, hj.2⟩
  · intro k r hr
    obtain ⟨j, v, hj, same⟩ := I.owned hr
    exact ⟨j, v, ⟨(kept j hj.2).trans hj.1, hj.2⟩, same⟩

theorem attach (I : Inv s) (hw : s.windows i = some w) (made : Bool) :
    Inv { s with
      windows := Function.update s.windows i (some (w.attach s.mNativeWindows made).1)
      attached := Function.update s.attached i (s.attached i || w.renderer_ && made)
      mNativeWindows := (w.attach s.mNativeWindows made).2 } := by
  unfold Window.attach
  cases renderer : w.renderer_ with
  | false =>
    have same : Function.update s.windows i (some w) = s.windows :=
      Function.update_eq_self_iff.mpr hw.symm
    simpa [same] using I
  | true =>
    cases made with
    | false => simpa [createNativeWindow, renderer] using I.remember hw false
    | true =>
      have own : ∀ r, s.mNativeWindows w.nativeHandle = some r → r = ⟨w.nativeHandle⟩ := by
        intro r hr
        cases attached : s.attached i with
        | true =>
          rw [I.mirrors.entry i w ⟨hw, attached⟩] at hr
          exact (Option.some.inj hr).symm
        | false =>
          rw [I.no_entry hw renderer attached] at hr
          cases hr
      rw [createNativeWindow_made own]
      have shows := (I.remember hw true).shows (Function.update_self ..) renderer
      simpa [renderer] using shows

theorem release (I : Inv s) (hw : s.windows i = some w) (proper : Proper s (.release i)) :
    Inv { s with
      attached := Function.update s.attached i false
      mNativeWindows := w.release w.nativeHandle s.mNativeWindows } := by
  rw [release_eq]
  cases attached : s.attached i with
  | true =>
    have hi : Shown s i w := ⟨hw, attached⟩
    rw [if_pos ⟨I.renderer hi, proper w hi⟩]
    exact I.hides hi
  | false =>
    rw [Function.update_eq_self_iff.mpr attached.symm]
    split_ifs with releases
    · have gone := I.no_entry hw releases.1 attached
      rw [Function.update_eq_self_iff.mpr gone.symm]
      exact I
    · exact I

theorem destruct_eq (I : Inv s) (w : Window) : w.destruct s.mNativeWindows = s.mNativeWindows := by
  rw [Window.destruct, release_eq, Function.update_eq_self_iff.mpr I.no_entry_zero.symm, ite_self]

theorem destroy (I : Inv s) (w : Window) (hidden : s.attached i = false) :
    Inv { s with
      windows := Function.update s.windows i none
      attached := Function.update s.attached i false
      mNativeWindows := w.destruct s.mNativeWindows } := by
  have kept : Function.update s.attached i false = s.attached :=
    Function.update_eq_self_iff.mpr hidden.symm
  rw [I.destruct_eq w, kept]
  exact I.remove hidden

end Inv

/-! Steps. -/

theorem init_inv : Inv init where
  handles := ⟨fun _ _ _ _ hv => (by cases hv), fun _ _ hw => (by cases hw), fun _ _ hw => (by cases hw)⟩
  shown := fun _ attached => by cases attached
  mirrors := ⟨fun _ _ hi => (by cases hi.2), fun _ _ hr => (by cases hr)⟩

theorem step_inv (s : State) (a : Action) (t : State) (I : Inv s) (proper : Proper s a)
    (h : step s a = some t) : Inv t := by
  cases a with
  | create nativeHandle renderer_ =>
    obtain ⟨free, same⟩ := Option.ite_none_right_eq_some.mp h
    exact Option.some.inj same ▸ I.create free
  | attach i made =>
    obtain ⟨w, hw, rfl⟩ := Option.map_eq_some_iff.mp h
    exact I.attach hw made
  | release i =>
    obtain ⟨w, hw, rfl⟩ := Option.map_eq_some_iff.mp h
    exact I.release hw proper
  | destroy i =>
    obtain ⟨w, hw, rfl⟩ := Option.map_eq_some_iff.mp h
    exact I.destroy w proper

/-- The entry of a window stays when the window is not shown any more. -/
theorem Inv.not_mirrors (I : Inv s) (hi : Shown s i w)
    (kept : t.mNativeWindows w.nativeHandle = s.mNativeWindows w.nativeHandle)
    (others : ∀ j v, Shown t j v → j ≠ i ∧ Shown s j v) : ¬ Mirrors t := by
  intro mirrors
  rw [I.mirrors.entry i w hi] at kept
  obtain ⟨j, ⟨v, hj, same⟩, -⟩ := mirrors.owner _ _ kept
  obtain ⟨other, old⟩ := others j v hj
  exact other (shown_unique I.handles I.shown hi old same)

theorem step_back (s : State) (a : Action) (t : State) (I : Inv s) (h : step s a = some t)
    (mirrors : Mirrors t) : Proper s a := by
  cases a with
  | create nativeHandle renderer_ => trivial
  | attach i made => trivial
  | release i =>
    obtain ⟨w, hw, rfl⟩ := Option.map_eq_some_iff.mp h
    intro v hi
    obtain rfl := Option.some.inj (hw.symm.trans hi.1)
    by_contra failed
    refine I.not_mirrors hi ?_ ?_ mirrors
    · rw [release_eq, if_neg fun releases => failed releases.2]
    · intro j v hj
      obtain ⟨other, attached⟩ := (update_eq_iff_of_ne Bool.false_ne_true j).mp hj.2
      exact ⟨other, hj.1, attached⟩
  | destroy i =>
    obtain ⟨w, hw, rfl⟩ := Option.map_eq_some_iff.mp h
    by_contra shown
    have hi : Shown s i w := ⟨hw, Bool.eq_true_of_not_eq_false shown⟩
    refine I.not_mirrors hi (congrFun (I.destruct_eq w) _) ?_ mirrors
    intro j v hj
    obtain ⟨other, attached⟩ := (update_eq_iff_of_ne Bool.false_ne_true j).mp hj.2
    exact ⟨other, (Function.update_of_ne other ..).symm.trans hj.1, attached⟩

/-- The map mirrors the attached windows exactly in the runs whose steps are all proper. -/
theorem native_windows_mirrored_iff (as : List Action) :
    Always step Mirrors init as ↔ Along step Proper init as :=
  always_iff_along (fun _ I => I.mirrors) step_inv step_back as init_inv

/-- An attach that fails, of a window that is attached, makes the window's release do nothing. -/
def attachedTwice : List Action := [.create 1 true, .attach 0 true, .attach 0 false, .release 0]

theorem entry_left_behind : ¬ ∀ as : List Action, Always step Mirrors init as := by
  intro h
  have mirrors := (h attachedTwice).last rfl
  obtain ⟨i, ⟨w, hi, -⟩, -⟩ := mirrors.owner 1 ⟨1⟩ (by decide)
  have hidden : Function.update (Function.update (Function.update (fun _ => false) 0 true) 0 true) 0
      false i = true := hi.2
  simp at hidden

/-! The manager's own calls. -/

/-- A window is attached only while it is not, and goes only then. -/
def Once (s : State) : Action → Prop
  | .create _ _ | .release _ => True
  | .attach i _ | .destroy i => s.attached i = false

structure Tidy (s : State) : Prop where
  inv : Inv s
  remembered : ∀ i w, Shown s i w → w.attached_ = true

theorem Tidy.proper (T : Tidy s) {a : Action} (once : Once s a) : Proper s a := by
  cases a with
  | create | attach => trivial
  | release i => exact fun w hi => T.remembered i w hi
  | destroy i => exact once

theorem step_tidy (s : State) (a : Action) (t : State) (T : Tidy s) (once : Once s a)
    (h : step s a = some t) : Tidy t := by
  refine ⟨step_inv s a t T.inv (T.proper once) h, ?_⟩
  intro j v hj
  cases a with
  | create nativeHandle renderer_ =>
    obtain ⟨-, same⟩ := Option.ite_none_right_eq_some.mp h
    obtain rfl := Option.some.inj same
    obtain ⟨w, hw, -⟩ := T.inv.shown j hj.2
    have old : j ≠ s.created := Nat.ne_of_lt (T.inv.handles.numbered j w hw)
    exact T.remembered j v ⟨(Function.update_of_ne old ..).symm.trans hj.1, hj.2⟩
  | attach i made =>
    obtain ⟨w, hw, rfl⟩ := Option.map_eq_some_iff.mp h
    obtain ⟨hv, attached⟩ := hj
    dsimp only at hv attached
    by_cases same : j = i
    · subst same
      rw [Function.update_self] at hv attached
      rw [show s.attached j = false from once, Bool.false_or, Bool.and_eq_true] at attached
      obtain ⟨renderer, rfl⟩ := attached
      obtain rfl := Option.some.inj hv
      rw [Window.attach, renderer, createNativeWindow]
      cases s.mNativeWindows w.nativeHandle <;> rfl
    · rw [Function.update_of_ne same] at hv attached
      exact T.remembered j v ⟨hv, attached⟩
  | release i =>
    obtain ⟨w, hw, rfl⟩ := Option.map_eq_some_iff.mp h
    obtain ⟨-, attached⟩ := (update_eq_iff_of_ne Bool.false_ne_true j).mp hj.2
    exact T.remembered j v ⟨hj.1, attached⟩
  | destroy i =>
    obtain ⟨w, hw, rfl⟩ := Option.map_eq_some_iff.mp h
    obtain ⟨other, attached⟩ := (update_eq_iff_of_ne Bool.false_ne_true j).mp hj.2
    exact T.remembered j v ⟨(Function.update_of_ne other ..).symm.trans hj.1, attached⟩

/-- What the entries of the manager's log do to windows: one that it makes is attached, and one that it
releases loses its last reference. `object` has the windows of the tasks, and `handle` their handles. -/
def calls (handle : Nat → Handle) (object : Task.Id → Option Nat) (next : Nat) :
    List Effect → List Action
  | [] => []
  | .attach w :: es =>
    .create (handle next) true :: .attach next w.attached_ ::
      calls handle (Function.update object w.task_ (some next)) (next + 1) es
  | .release w :: es =>
    match object w.task_ with
    | none => calls handle object next es
    | some i =>
      .release i :: .destroy i :: calls handle (Function.update object w.task_ none) next es
  | .removeTask _ :: es | .updateState _ _ :: es => calls handle object next es

theorem calls_once (T : Tidy s) (handle : Nat → Handle) (object : Task.Id → Option Nat)
    (es : List Effect) : Along step Once s (calls handle object s.created es) := by
  induction es generalizing s object with
  | nil => trivial
  | cons e es ih =>
    cases e with
    | removeTask => exact ih T object
    | updateState => exact ih T object
    | attach w =>
      intro t ht
      have Tt := step_tidy s (.create (handle s.created) true) t T trivial ht
      obtain ⟨-, same⟩ := Option.ite_none_right_eq_some.mp ht
      obtain rfl := Option.some.inj same
      refine ⟨trivial, fun u hu => ?_⟩
      have once : s.attached s.created = false := by
        by_contra attached
        obtain ⟨v, hv, -⟩ := T.inv.shown _ (Bool.eq_true_of_not_eq_false attached)
        exact Nat.lt_irrefl _ (T.inv.handles.numbered _ v hv)
      have Tu := step_tidy _ (.attach s.created w.attached_) u Tt once hu
      obtain ⟨v, -, rfl⟩ := Option.map_eq_some_iff.mp hu
      exact ⟨once, ih Tu _⟩
    | release w =>
      unfold calls
      cases object w.task_ with
      | none => exact ih T object
      | some i =>
        intro t ht
        have Tt := step_tidy s (.release i) t T trivial ht
        obtain ⟨v, -, rfl⟩ := Option.map_eq_some_iff.mp ht
        refine ⟨trivial, fun u hu => ?_⟩
        have once : Function.update s.attached i false i = false := Function.update_self ..
        have Tu := step_tidy _ (.destroy i) u Tt once hu
        obtain ⟨v, -, rfl⟩ := Option.map_eq_some_iff.mp hu
        exact ⟨once, ih Tu _⟩

/-- In the runs that the manager makes by itself, up to its end, the map mirrors the windows. -/
theorem managed_mirrored (handle : Nat → Handle) (es : List Effect) :
    Always step Mirrors init (calls handle (fun _ => none) 0 es) := by
  have tidy : Tidy init := ⟨init_inv, fun _ _ hi => by cases hi.2⟩
  have along := calls_once tidy handle (fun _ => none) es
  exact (always_of_along step_tidy tidy along).mono fun _ T => T.inv.mirrors

end Anbox.Wm.NativeWindows
