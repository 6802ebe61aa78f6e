import Anbox.Common.Utils
import Anbox.Framework.Groups
import Anbox.Framework.Scan
import Anbox.Wm.MultiWindowManager
import Mathlib.Algebra.Ring.Int.Defs
import Mathlib.Data.List.Forall2

namespace Anbox.Graphics.LayerComposer

open Anbox.Framework
open Anbox.Utils (text stringStartsWith stringStartsWith_iff)
open Anbox.Wm (Task.Id Window)
open Anbox.Wm.MultiWindowManager (Windows)

/-- A rectangle on the screen. Its coordinates are of the type `int32_t`, whose operations wrap. -/
structure ScreenRect where
  left : Int32
  top : Int32
  right : Int32
  bottom : Int32
  deriving DecidableEq

def ScreenRect.Invalid : ScreenRect := ⟨-1, -1, -1, -1⟩

def ScreenRect.width (r : ScreenRect) : Int32 := r.right - r.left

def ScreenRect.height (r : ScreenRect) : Int32 := r.bottom - r.top

structure Renderable (α τ : Type*) where
  name : List UInt8
  buffer : UInt32
  screenPosition : ScreenRect
  crop : ScreenRect
  transformation : τ
  alpha : α
  deriving DecidableEq

/-! The names of surfaces. -/

def surface : List UInt8 := text "org.anbox.surface."

def cStr (name : List UInt8) : List UInt8 := name.takeWhile fun c => c ≠ 0

/-- A number is one of the type `int`. -/
def IsInt (n : Int) : Prop := -2^31 ≤ n ∧ n < 2^31

instance (n : Int) : Decidable (IsInt n) := inferInstanceAs (Decidable (_ ∧ _))

/-- What `%d` stores for a number. The language leaves it open for those that are no `int`. -/
def stored (overflow : Int → Int32) (n : Int) : Int32 := if IsInt n then Int32.ofInt n else overflow n

/-- The number behind the beginning of the name, which matches itself. -/
def sscanf (overflow : Int → Int32) (name : List UInt8) : Option Int32 :=
  (scanInt ((cStr name).drop surface.length)).map (stored overflow)

/-- The task that a surface is meant for, if it is for one. -/
def taskId (overflow : Int → Int32) (name : List UInt8) : Option Task.Id :=
  if !stringStartsWith name surface then none
  else
    match sscanf overflow name with
    | none => none
    | some taskId => if taskId = 0 then none else some taskId.toInt

/-! The layers of the windows. -/

variable {α τ : Type*}

section

variable (overflow : Int → Int32) (ws : Windows)

def windowOf (r : Renderable α τ) : Option Window := (taskId overflow r.name).bind ws.find

/-- The first loop: the map of windows. -/
def winLayers (renderables : List (Renderable α τ)) : AList fun _ : Window => List (Renderable α τ) :=
  group (windowOf overflow ws) renderables ∅

/-- The largest area so far, and where that layer is. -/
structure Largest where
  maxLayerArea : Int32
  newWindowFrame : ScreenRect

def layerArea (r : Renderable α τ) : Int32 := r.screenPosition.width * r.screenPosition.height

def Largest.next (l : Largest) (r : Renderable α τ) : Largest :=
  if layerArea r < l.maxLayerArea then l else ⟨layerArea r, r.screenPosition⟩

def newWindowFrame (renderables : List (Renderable α τ)) : ScreenRect :=
  (renderables.foldl Largest.next ⟨-1, .Invalid⟩).newWindowFrame

/-- The rectangle of a layer in the window it is drawn into. -/
def rect (newWindowFrame : ScreenRect) (r : Renderable α τ) : ScreenRect where
  left := r.screenPosition.left - newWindowFrame.left + r.crop.left
  top := r.screenPosition.top - newWindowFrame.top + r.crop.top
  right := r.screenPosition.right - newWindowFrame.left + r.crop.left
  bottom := r.screenPosition.bottom - newWindowFrame.top + r.crop.top

def finalRenderables (renderables : List (Renderable α τ)) : List (Renderable α τ) :=
  renderables.map fun r => { r with screenPosition := rect (newWindowFrame renderables) r }

/-- The entries of the map, in some order. -/
def processLayers (renderables : List (Renderable α τ)) : List (Window × List (Renderable α τ)) :=
  (winLayers overflow ws renderables).entries.map fun w => (w.1, finalRenderables w.2)

/-- A call of `Renderer::draw`. The window stands for its native handle. -/
structure Draw (α τ : Type*) where
  nativeWindow : Window
  windowFrame : Graphics.Rect
  renderables : List (Renderable α τ)

def submitLayers (renderables : List (Renderable α τ)) : List (Draw α τ) :=
  (processLayers overflow ws renderables).map fun w =>
    ⟨w.1, ⟨0, 0, w.1.frame_.width, w.1.frame_.height⟩, w.2⟩

end

/-! What is wanted. -/

/-- The number in a name. -/
def number (name : List UInt8) : Option Int :=
  if surface <+: cStr name then scanInt ((cStr name).drop surface.length) else none

/-- The name carries the task. Zero is none. -/
def Carries (t : Task.Id) (r : Renderable α τ) : Prop := number r.name = some t ∧ IsInt t ∧ t ≠ 0

instance (t : Task.Id) : DecidablePred (Carries t (α := α) (τ := τ)) :=
  fun _ => inferInstanceAs (Decidable (_ ∧ _ ∧ _))

/-- A layer is drawn as it was submitted, in a place of its own. -/
structure Same (r r' : Renderable α τ) : Prop where
  name : r'.name = r.name
  buffer : r'.buffer = r.buffer
  alpha : r'.alpha = r.alpha
  crop : r'.crop = r.crop
  transformation : r'.transformation = r.transformation
  width : r'.screenPosition.width = r.screenPosition.width
  height : r'.screenPosition.height = r.screenPosition.height

/-- What is drawn for a window. -/
def drawn (draws : List (Draw α τ)) (w : Window) : List (Renderable α τ) :=
  ((draws.find? fun d => d.nativeWindow = w).map Draw.renderables).getD []

/-- Windows of the map are drawn, none twice and each in its size, with all layers of its task in
their order and no others. -/
structure Partitioned (ws : Windows) (renderables : List (Renderable α τ))
    (draws : List (Draw α τ)) : Prop where
  once : (draws.map Draw.nativeWindow).Nodup
  window : ∀ d ∈ draws, ws.find d.nativeWindow.task_ = some d.nativeWindow ∧
    d.windowFrame = ⟨0, 0, d.nativeWindow.frame_.width, d.nativeWindow.frame_.height⟩
  layers : ∀ t w, ws.find t = some w →
    List.Forall₂ Same (renderables.filter fun r => Carries t r) (drawn draws w)

/-- No name has a number that is no `int` and is stored as the task of a window. -/
def Ranged (overflow : Int → Int32) (ws : Windows) (renderables : List (Renderable α τ)) : Prop :=
  ∀ r ∈ renderables, ∀ n, number r.name = some n →
    IsInt n ∨ overflow n = 0 ∨ ws.find (overflow n).toInt = none

variable {overflow : Int → Int32} {ws : Windows}

/-! Names. -/

theorem surface_begins {name : List UInt8} : surface <+: name ↔ surface <+: cStr name := by
  constructor
  · rintro ⟨rest, rfl⟩
    have plain : (surface.all fun c => c ≠ 0) = true := by decide
    rw [cStr, List.takeWhile_append_of_pos (List.all_eq_true.mp plain)]
    exact List.prefix_append _ _
  · intro h
    exact h.trans (List.takeWhile_prefix _)

/-- What it means for a number to be in a name. -/
theorem number_eq_some {name : List UInt8} {n : Int} : number name = some n ↔
    ∃ behind, cStr name = surface ++ behind ∧ Writes behind n := by
  rw [number, Option.ite_none_right_eq_some, scanInt_iff]
  constructor
  · rintro ⟨⟨behind, cut⟩, writes⟩
    rw [← cut, List.drop_left] at writes
    exact ⟨behind, cut.symm, writes⟩
  · rintro ⟨behind, cut, writes⟩
    rw [cut, List.drop_left]
    exact ⟨List.prefix_append _ _, writes⟩

variable (overflow) in
theorem stored_toInt {n : Int} (h : IsInt n) : (stored overflow n).toInt = n := by
  rw [stored, if_pos h]
  exact Int32.toInt_ofInt_of_le h.1 h.2

theorem taskId_eq_some {name : List UInt8} {t : Task.Id} : taskId overflow name = some t ↔
    ∃ n, number name = some n ∧ stored overflow n ≠ 0 ∧ (stored overflow n).toInt = t := by
  unfold taskId number sscanf
  by_cases begins : surface <+: cStr name
  · rw [if_pos begins, if_neg (by simpa using stringStartsWith_iff.mpr (surface_begins.mpr begins))]
    cases scanInt ((cStr name).drop surface.length) with
    | none => simp
    | some n => simp
  · have other : stringStartsWith name surface = false := by
      rw [← Bool.not_eq_true, stringStartsWith_iff, surface_begins]
      exact begins
    simp [begins, other]

theorem windowOf_iff {r : Renderable α τ} {w : Window}
    (ranged : ∀ n, number r.name = some n →
      IsInt n ∨ overflow n = 0 ∨ ws.find (overflow n).toInt = none) :
    windowOf overflow ws r = some w ↔ Carries w.task_ r ∧ ws.find w.task_ = some w := by
  rw [windowOf, Option.bind_eq_some_iff]
  constructor
  · rintro ⟨t, task, found⟩
    obtain ⟨n, named, nonzero, rfl⟩ := taskId_eq_some.mp task
    have own := ws.task_eq _ w found
    by_cases int : IsInt n
    · have same := stored_toInt overflow int
      rw [same] at own found
      refine ⟨⟨own ▸ named, own ▸ int, ?_⟩, own ▸ found⟩
      rw [own]
      rintro rfl
      exact nonzero (by rw [stored, if_pos int]; rfl)
    · rw [stored, if_neg int] at nonzero found
      cases (ranged n named).resolve_left int with
      | inl zero => exact absurd zero nonzero
      | inr missing =>
        rw [missing] at found
        cases found
  · rintro ⟨⟨named, int, nonzero⟩, found⟩
    refine ⟨w.task_, taskId_eq_some.mpr ⟨w.task_, named, ?_, stored_toInt overflow int⟩, found⟩
    intro zero
    have same := stored_toInt overflow int
    rw [zero] at same
    exact nonzero same.symm

/-! Layers. -/

theorem same_rect (frame : ScreenRect) (r : Renderable α τ) :
    Same r { r with screenPosition := rect frame r } where
  name := rfl
  buffer := rfl
  alpha := rfl
  crop := rfl
  transformation := rfl
  width := by
    simp only [ScreenRect.width, rect]
    grind
  height := by
    simp only [ScreenRect.height, rect]
    grind

theorem same_finalRenderables (rs : List (Renderable α τ)) :
    List.Forall₂ Same rs (finalRenderables rs) :=
  List.forall₂_map_right_iff.mpr (List.forall₂_same.mpr fun r _ => same_rect _ r)

theorem names_of_same {rs rs' : List (Renderable α τ)} (h : List.Forall₂ Same rs rs') :
    rs'.map Renderable.name = rs.map Renderable.name := by
  induction h with
  | nil => rfl
  | cons same _ ih => rw [List.map_cons, List.map_cons, same.name, ih]

theorem members_winLayers (rs : List (Renderable α τ)) (w : Window) :
    members (winLayers overflow ws rs) w = rs.filter fun r => windowOf overflow ws r = some w := by
  rw [winLayers, members_group, members, AList.lookup_empty]
  rfl

variable (overflow ws) in
/-- A window is given the layers of its entry, or none. -/
theorem drawn_submitLayers (rs : List (Renderable α τ)) (w : Window) :
    drawn (submitLayers overflow ws rs) w =
      finalRenderables (rs.filter fun r => windowOf overflow ws r = some w) := by
  rw [← members_winLayers, members, ← find_entries, drawn, submitLayers, processLayers,
    List.map_map, List.find?_map]
  change ((((winLayers overflow ws rs).entries.find? fun e => e.1 = w).map _).map _).getD [] = _
  cases (winLayers overflow ws rs).entries.find? fun e => e.1 = w with
  | none => rfl
  | some e => rfl

theorem mem_submitLayers {rs : List (Renderable α τ)} {d : Draw α τ}
    (h : d ∈ submitLayers overflow ws rs) : ∃ r ∈ rs, windowOf overflow ws r = some d.nativeWindow ∧
      d.windowFrame = ⟨0, 0, d.nativeWindow.frame_.width, d.nativeWindow.frame_.height⟩ := by
  rw [submitLayers, processLayers, List.map_map] at h
  obtain ⟨e, there, rfl⟩ := List.mem_map.mp h
  have key : e.1 ∈ winLayers overflow ws rs := AList.mem_keys.mpr (List.mem_map_of_mem there)
  cases mem_group key with
  | inl old => exact absurd old (AList.notMem_empty e.1)
  | inr new =>
    obtain ⟨r, hr, window⟩ := new
    exact ⟨r, hr, window, rfl⟩

/-- In names without such a number the layers of a window are those that carry its task. -/
theorem filter_windowOf {rs : List (Renderable α τ)} (ranged : Ranged overflow ws rs) {t : Task.Id}
    {w : Window} (found : ws.find t = some w) :
    (rs.filter fun r => windowOf overflow ws r = some w) = rs.filter fun r => Carries t r := by
  apply List.filter_congr
  intro r hr
  have own := ws.task_eq t w found
  rw [← own] at found ⊢
  simp [windowOf_iff (ranged r hr), found]

/-- The layers are drawn in parts, by their tasks, exactly when no number in a name is too large for
an `int` and taken for the task of a window. -/
theorem submit_layers_partitions_iff (overflow : Int → Int32) (ws : Windows)
    (rs : List (Renderable α τ)) :
    Partitioned ws rs (submitLayers overflow ws rs) ↔ Ranged overflow ws rs := by
  constructor
  · intro h r hr n named
    by_contra others
    simp only [not_or] at others
    obtain ⟨wide, nonzero, window⟩ := others
    obtain ⟨w, found⟩ := Option.ne_none_iff_exists'.mp window
    have taken : windowOf overflow ws r = some w := by
      rw [windowOf, taskId_eq_some.mpr ⟨n, named, ?_, rfl⟩, stored, if_neg wide]
      · exact found
      · rwa [stored, if_neg wide]
    have there : r ∈ rs.filter fun r => windowOf overflow ws r = some w :=
      List.mem_filter.mpr ⟨hr, by simpa using taken⟩
    have all := h.layers _ w found
    rw [drawn_submitLayers] at all
    have names := (names_of_same all).symm.trans (names_of_same (same_finalRenderables _))
    have drawn_name := List.mem_map_of_mem (f := Renderable.name) there
    rw [← names] at drawn_name
    obtain ⟨r', hr', name⟩ := List.mem_map.mp drawn_name
    have carries : Carries (overflow n).toInt r' := by simpa using (List.mem_filter.mp hr').2
    rw [Carries, name, named] at carries
    exact wide (Option.some.inj carries.1 ▸ carries.2.1)
  · intro ranged
    refine ⟨?_, ?_, ?_⟩
    · rw [submitLayers, processLayers, List.map_map, List.map_map]
      exact (winLayers overflow ws rs).nodupKeys
    · intro d hd
      obtain ⟨r, hr, window, frame⟩ := mem_submitLayers hd
      exact ⟨((windowOf_iff (ranged r hr)).mp window).2, frame⟩
    · intro t w found
      rw [drawn_submitLayers, filter_windowOf ranged found]
      exact same_finalRenderables _

/-- `org.anbox.surface.4294967297`, on a machine that keeps the low 32 bits. -/
def wideName : Renderable Unit Unit where
  name := surface ++ text "4294967297"
  buffer := 0
  screenPosition := ⟨0, 0, 1, 1⟩
  crop := ⟨0, 0, 1, 1⟩
  transformation := ()
  alpha := ()

theorem wide_name_drawn : ¬ ∀ (overflow : Int → Int32) (ws : Windows)
    (rs : List (Renderable Unit Unit)), Partitioned ws rs (submitLayers overflow ws rs) := by
  intro h
  let w : Window := ⟨1, ⟨0, 0, 1, 1⟩, "", true⟩
  have found : (Windows.empty.insert w).find 1 = some w := Windows.find_insert _ w
  have all := (h Int32.ofInt (Windows.empty.insert w) [wideName]).layers 1 w found
  have mine : windowOf Int32.ofInt (Windows.empty.insert w) wideName = some w := by
    have task : taskId Int32.ofInt wideName.name = some 1 := by decide
    rw [windowOf, task, Option.bind_some, found]
  have none : ([wideName].filter fun r => Carries 1 r) = [] := by decide
  rw [none, drawn_submitLayers, List.filter_cons_of_pos (by simpa using mine)] at all
  cases all

end Anbox.Graphics.LayerComposer
