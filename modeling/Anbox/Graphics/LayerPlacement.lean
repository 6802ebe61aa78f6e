import Anbox.Graphics.LayerComposer

namespace Anbox.Graphics.LayerComposer

open Anbox.Framework
open Anbox.Utils (text)
open Anbox.Wm (Window)
open Anbox.Wm.MultiWindowManager (Windows)

variable {α τ : Type*}

/-! What is wanted. -/

/-- The layers of a window, as they were submitted. -/
def layersOf (overflow : Int → Int32) (ws : Windows) (renderables : List (Renderable α τ))
    (w : Window) : List (Renderable α τ) :=
  renderables.filter fun r => windowOf overflow ws r = some w

/-- What `processLayers` assigns to a window. -/
def assigned (layers : List (Window × List (Renderable α τ))) (w : Window) : List (Renderable α τ) :=
  ((layers.find? fun e => e.1 = w).map Prod.snd).getD []

/-- A layer that no other one exceeds, and the last of these; an area below -1 does not count. -/
def IsReference (layers : List (Renderable α τ)) (r : Renderable α τ) : Prop :=
  ∃ before after, layers = before ++ r :: after ∧ (∀ x ∈ before, layerArea x ≤ layerArea r) ∧
    (∀ x ∈ after, layerArea x < layerArea r) ∧ -1 ≤ layerArea r

/-- How far a rectangle lies behind another one, across and down. -/
def displacement (a b : ScreenRect) : Int × Int :=
  (a.left.toInt - b.left.toInt, a.top.toInt - b.top.toInt)

/-- Layers and what became of them: they lie to each other as before, and the reference begins at the
origin of its crop. -/
structure Placed (layers placed : List (Renderable α τ)) : Prop where
  displaced : ∀ p ∈ layers.zip placed, ∀ q ∈ layers.zip placed,
    displacement p.2.screenPosition q.2.screenPosition =
      displacement p.1.screenPosition q.1.screenPosition
  reference : ∃ p ∈ layers.zip placed, IsReference layers p.1 ∧
    p.2.screenPosition.left = p.1.crop.left ∧ p.2.screenPosition.top = p.1.crop.top

/-- There is a reference, all crops have its origin, and no position in the window is too far off. -/
def Aligned (layers : List (Renderable α τ)) : Prop :=
  ∃ ref, IsReference layers ref ∧ ∀ r ∈ layers,
    (r.crop.left = ref.crop.left ∧ IsInt (r.screenPosition.left.toInt -
      ref.screenPosition.left.toInt + ref.crop.left.toInt)) ∧
    (r.crop.top = ref.crop.top ∧ IsInt (r.screenPosition.top.toInt -
      ref.screenPosition.top.toInt + ref.crop.top.toInt))

/-! The reference. -/

theorem foldl_next_bound {rs : List (Renderable α τ)} {l : Largest} {area : Int32}
    (start : l.maxLayerArea ≤ area) (all : ∀ x ∈ rs, layerArea x ≤ area) :
    (rs.foldl Largest.next l).maxLayerArea ≤ area := by
  induction rs generalizing l with
  | nil => exact start
  | cons r rs ih =>
    obtain ⟨first, later⟩ := List.forall_mem_cons.mp all
    apply ih _ later
    unfold Largest.next
    split_ifs
    · exact start
    · exact first

theorem foldl_next_kept {rs : List (Renderable α τ)} {l : Largest}
    (all : ∀ x ∈ rs, layerArea x < l.maxLayerArea) : rs.foldl Largest.next l = l := by
  induction rs with
  | nil => rfl
  | cons r rs ih =>
    obtain ⟨first, later⟩ := List.forall_mem_cons.mp all
    rw [List.foldl_cons, Largest.next, if_pos first, ih later]

theorem newWindowFrame_eq {layers : List (Renderable α τ)} {r : Renderable α τ}
    (h : IsReference layers r) : newWindowFrame layers = r.screenPosition := by
  obtain ⟨before, after, rfl, smaller, behind, counts⟩ := h
  have bound : ¬ layerArea r < (before.foldl Largest.next ⟨-1, .Invalid⟩).maxLayerArea :=
    Int32.not_lt.mpr (foldl_next_bound (l := ⟨-1, .Invalid⟩) counts smaller)
  have kept : after.foldl Largest.next ⟨layerArea r, r.screenPosition⟩ =
      ⟨layerArea r, r.screenPosition⟩ := foldl_next_kept behind
  rw [newWindowFrame, List.foldl_append, List.foldl_cons, Largest.next, if_neg bound, kept]

theorem IsReference.mem {layers : List (Renderable α τ)} {r : Renderable α τ}
    (h : IsReference layers r) : r ∈ layers := by
  obtain ⟨before, after, rfl, -⟩ := h
  exact List.mem_append_right before List.mem_cons_self

/-! Coordinates. -/

theorem toInt_of_isInt {s f d : Int32} (h : IsInt (s.toInt - f.toInt + d.toInt)) :
    (s - f + d).toInt = s.toInt - f.toInt + d.toInt := by
  have same : s - f + d = Int32.ofInt (s.toInt - f.toInt + d.toInt) := by
    rw [Int32.ofInt_add, Int32.ofInt_sub, Int32.ofInt_toInt, Int32.ofInt_toInt, Int32.ofInt_toInt]
  rw [same]
  exact Int32.toInt_ofInt_of_le h.1 h.2

/-- A coordinate `s` beside the coordinate `f` of the reference, whose crop begins at `d`. -/
theorem coordinate_kept_iff (s f c d : Int32) :
    (s - f + c).toInt - d.toInt = s.toInt - f.toInt ↔
      c = d ∧ IsInt (s.toInt - f.toInt + d.toInt) := by
  constructor
  · intro h
    have exact_ : (s - f + c).toInt = s.toInt - f.toInt + d.toInt := by omega
    have int : IsInt (s.toInt - f.toInt + d.toInt) := by
      rw [← exact_]
      exact ⟨Int32.le_toInt _, Int32.toInt_lt _⟩
    have same : s - f + c = s - f + d := Int32.toInt_inj.mp (exact_.trans (toInt_of_isInt int).symm)
    refine ⟨?_, int⟩
    grind
  · rintro ⟨rfl, int⟩
    rw [toInt_of_isInt int]
    omega

theorem sub_self_add (f d : Int32) : f - f + d = d := by grind

/-! Placed layers. -/

theorem mem_zip_finalRenderables {layers : List (Renderable α τ)}
    {p : Renderable α τ × Renderable α τ} : p ∈ layers.zip (finalRenderables layers) ↔
      ∃ r ∈ layers, p = (r, { r with screenPosition := rect (newWindowFrame layers) r }) := by
  have pairs : layers.zip (finalRenderables layers) = layers.map fun r =>
      (r, { r with screenPosition := rect (newWindowFrame layers) r }) := by
    have zipped := List.zip_map' (f := id) (l := layers)
      (g := fun r => { r with screenPosition := rect (newWindowFrame layers) r })
    rwa [List.map_id] at zipped
  rw [pairs, List.mem_map]
  simp only [eq_comm]

theorem placed_iff_aligned (layers : List (Renderable α τ)) :
    Placed layers (finalRenderables layers) ↔ Aligned layers := by
  constructor
  · intro h
    obtain ⟨p, hp, reference, -⟩ := h.reference
    obtain ⟨ref, there, rfl⟩ := mem_zip_finalRenderables.mp hp
    have frame := newWindowFrame_eq reference
    refine ⟨ref, reference, ?_⟩
    intro r hr
    have kept := h.displaced _ (mem_zip_finalRenderables.mpr ⟨r, hr, rfl⟩) _ hp
    simp only [displacement, rect, frame, sub_self_add, Prod.mk.injEq] at kept
    exact ⟨(coordinate_kept_iff _ _ _ _).mp kept.1, (coordinate_kept_iff _ _ _ _).mp kept.2⟩
  · rintro ⟨ref, reference, aligned⟩
    have frame := newWindowFrame_eq reference
    have beside : ∀ r ∈ layers, displacement (rect (newWindowFrame layers) r) ref.crop =
        displacement r.screenPosition ref.screenPosition := by
      intro r hr
      obtain ⟨left, top⟩ := aligned r hr
      rw [frame]
      exact Prod.ext ((coordinate_kept_iff _ _ _ _).mpr left) ((coordinate_kept_iff _ _ _ _).mpr top)
    constructor
    · intro p hp q hq
      obtain ⟨a, ha, rfl⟩ := mem_zip_finalRenderables.mp hp
      obtain ⟨b, hb, rfl⟩ := mem_zip_finalRenderables.mp hq
      have first := beside a ha
      have second := beside b hb
      simp only [displacement, Prod.mk.injEq] at first second ⊢
      omega
    · refine ⟨_, mem_zip_finalRenderables.mpr ⟨ref, reference.mem, rfl⟩, reference, ?_⟩
      simp only [rect, frame, sub_self_add, and_self]

variable {overflow : Int → Int32} {ws : Windows}

theorem assigned_processLayers (rs : List (Renderable α τ)) (w : Window) :
    assigned (processLayers overflow ws rs) w = finalRenderables (layersOf overflow ws rs w) := by
  have same := drawn_submitLayers overflow ws rs w
  rw [drawn, submitLayers, List.find?_map, Option.map_map] at same
  exact same

/-- The layers of a window keep their places to each other, and its reference begins at the origin of
its crop, exactly when the crops of all of them begin where that of the reference does. -/
theorem process_layers_places_iff (overflow : Int → Int32) (ws : Windows)
    (rs : List (Renderable α τ)) (w : Window) :
    Placed (layersOf overflow ws rs w) (assigned (processLayers overflow ws rs) w) ↔
      Aligned (layersOf overflow ws rs w) := by
  rw [assigned_processLayers]
  exact placed_iff_aligned _

/-- A layer of the task 1. -/
def layerAt (screenPosition crop : ScreenRect) : Renderable Unit Unit where
  name := surface ++ text "1"
  buffer := 0
  screenPosition := screenPosition
  crop := crop
  transformation := ()
  alpha := ()

/-- A window, and a popup of it that the left border of the display cuts off at 20. -/
def popup : List (Renderable Unit Unit) :=
  [layerAt ⟨0, 0, 100, 100⟩ ⟨0, 0, 100, 100⟩, layerAt ⟨0, 50, 30, 80⟩ ⟨20, 0, 50, 30⟩]

theorem popup_displaced : ¬ ∀ (overflow : Int → Int32) (ws : Windows)
    (rs : List (Renderable Unit Unit)) (w : Window), layersOf overflow ws rs w ≠ [] →
    Placed (layersOf overflow ws rs w) (assigned (processLayers overflow ws rs) w) := by
  intro h
  let w : Window := ⟨1, ⟨0, 0, 100, 100⟩, "", true⟩
  have found : (Windows.empty.insert w).find 1 = some w := Windows.find_insert _ w
  have task : taskId (fun _ => 0) (surface ++ text "1") = some 1 := by decide
  have all : layersOf (fun _ => 0) (Windows.empty.insert w) popup w = popup := by
    simp [layersOf, windowOf, popup, layerAt, task, found]
  have placed := h (fun _ => 0) (Windows.empty.insert w) popup w (all ▸ List.cons_ne_nil _ _)
  rw [assigned_processLayers, all, placed_iff_aligned] at placed
  obtain ⟨ref, -, aligned⟩ := placed
  have first := (aligned _ List.mem_cons_self).1.1
  have second := (aligned _ (List.mem_cons_of_mem _ List.mem_cons_self)).1.1
  exact absurd (first.trans second.symm) (by decide)

end Anbox.Graphics.LayerComposer
