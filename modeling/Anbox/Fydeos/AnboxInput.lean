import Anbox.Framework.MultiTouch
import Anbox.Graphics.Rect
import Mathlib.Data.Int.Order.Basic
import Mathlib.Data.List.FinRange

namespace Anbox.Fydeos

open Anbox.Framework.MultiTouch
open Anbox.Graphics (Rect)

abbrev MAX_FINGERS : Nat := 10

def MAX_TRACKING_ID : Int := 10

/-- The table of slots holds the ids of their fingers, and -1 where there is none. -/
structure AnboxInput where
  touchSlots : Fin MAX_FINGERS → Int
  lastSlot : Option (Fin MAX_FINGERS)

abbrev Event := InputEvent (Fin MAX_FINGERS)

namespace AnboxInput

def init : AnboxInput := { touchSlots := fun _ => -1, lastSlot := none }

def findTouchSlot (s : AnboxInput) (id : Int) : Option (Fin MAX_FINGERS) :=
  (List.finRange MAX_FINGERS).find? fun i => s.touchSlots i = id

/-- The slot is named only when it is not that of the last event. -/
def pushSlot (s : AnboxInput) (slot : Fin MAX_FINGERS) : List Event × AnboxInput :=
  if s.lastSlot = some slot then ([], s)
  else ([.ABS_MT_SLOT slot], { s with lastSlot := some slot })

def setSlot (s : AnboxInput) (slot : Fin MAX_FINGERS) (id : Int) : AnboxInput :=
  { s with touchSlots := Function.update s.touchSlots slot id }

def pushFingerDown (s : AnboxInput) (x y fingerId : Int) : List Event × AnboxInput :=
  match s.findTouchSlot (-1) with
  | none => ([], s)
  | some slot =>
    let pushed := (s.setSlot slot fingerId).pushSlot slot
    (pushed.1 ++ [.ABS_MT_TRACKING_ID (fingerId.tmod MAX_TRACKING_ID + 1), .ABS_MT_POSITION_X x,
      .ABS_MT_POSITION_Y y, .SYN_REPORT], pushed.2)

def pushFingerUp (s : AnboxInput) (fingerId : Int) : List Event × AnboxInput :=
  match s.findTouchSlot fingerId with
  | none => ([], s)
  | some slot =>
    let pushed := s.pushSlot slot
    (pushed.1 ++ [.ABS_MT_TRACKING_ID (-1), .SYN_REPORT], pushed.2.setSlot slot (-1))

def pushFingerMotion (s : AnboxInput) (x y fingerId : Int) : List Event × AnboxInput :=
  match s.findTouchSlot fingerId with
  | none => ([], s)
  | some slot =>
    let pushed := s.pushSlot slot
    (pushed.1 ++ [.ABS_MT_POSITION_X x, .ABS_MT_POSITION_Y y, .SYN_REPORT], pushed.2)

theorem findTouchSlot_some {s : AnboxInput} {id : Int} {i : Fin MAX_FINGERS}
    (h : s.findTouchSlot id = some i) : s.touchSlots i = id := by
  simpa using List.find?_some h

theorem findTouchSlot_none {s : AnboxInput} {id : Int} (h : s.findTouchSlot id = none)
    (i : Fin MAX_FINGERS) : s.touchSlots i ≠ id := by
  have none := List.find?_eq_none.mp h i (List.mem_finRange i)
  simpa using none

/-- An id that stands in one slot is found there. -/
theorem findTouchSlot_eq {s : AnboxInput} {id : Int} {i : Fin MAX_FINGERS}
    (own : s.touchSlots i = id) (only : ∀ j, s.touchSlots j = id → j = i) :
    s.findTouchSlot id = some i := by
  cases h : s.findTouchSlot id with
  | none => exact absurd own (findTouchSlot_none h i)
  | some j => rw [only j (findTouchSlot_some h)]

theorem pushSlot_last (s : AnboxInput) (i : Fin MAX_FINGERS) :
    (s.pushSlot i).2 = { s with lastSlot := some i } := by
  unfold pushSlot
  split_ifs with last
  · rw [← last]
  · rfl

/-- Whether it is named or not, the device is at the slot. -/
theorem replay_pushSlot {s : AnboxInput} {d : Device (Fin MAX_FINGERS)}
    (at_last : ∀ i, s.lastSlot = some i → d.slot = i) (i : Fin MAX_FINGERS) :
    d.replay (s.pushSlot i).1 = { d with slot := i } := by
  unfold pushSlot
  split_ifs with last
  · rw [← at_last i last]
    rfl
  · rfl

/-! What each of the calls reports. -/

variable {s : AnboxInput} {d : Device (Fin MAX_FINGERS)} {i : Fin MAX_FINGERS}

theorem pushFingerDown_spec (at_last : ∀ i, s.lastSlot = some i → d.slot = i)
    (free : s.findTouchSlot (-1) = some i) (x y id : Int) :
    (s.pushFingerDown x y id).2 = { s.setSlot i id with lastSlot := some i } ∧
    d.replay (s.pushFingerDown x y id).1 = d.report i ⟨id.tmod MAX_TRACKING_ID + 1, x, y⟩ := by
  unfold pushFingerDown
  simp only [free]
  have named := replay_pushSlot (s := s.setSlot i id) at_last i
  refine ⟨by rw [pushSlot_last], ?_⟩
  rw [Device.replay_append, named, Device.replay_begins]
  rfl

theorem pushFingerUp_spec (at_last : ∀ i, s.lastSlot = some i → d.slot = i) {id : Int}
    (found : s.findTouchSlot id = some i) :
    (s.pushFingerUp id).2 = { s.setSlot i (-1) with lastSlot := some i } ∧
    d.replay (s.pushFingerUp id).1 = d.report i (d.slots i).lifted := by
  unfold pushFingerUp
  simp only [found]
  refine ⟨by rw [pushSlot_last]; rfl, ?_⟩
  rw [Device.replay_append, replay_pushSlot at_last, Device.replay_lifts]
  rfl

theorem pushFingerMotion_spec (at_last : ∀ i, s.lastSlot = some i → d.slot = i) {id : Int}
    (found : s.findTouchSlot id = some i) (x y : Int) :
    (s.pushFingerMotion x y id).2 = { s with lastSlot := some i } ∧
    d.replay (s.pushFingerMotion x y id).1 = d.report i ((d.slots i).moved x y) := by
  unfold pushFingerMotion
  simp only [found]
  refine ⟨by rw [pushSlot_last], ?_⟩
  rw [Device.replay_append, replay_pushSlot at_last, Device.replay_moves]
  rfl

end AnboxInput

end Anbox.Fydeos
