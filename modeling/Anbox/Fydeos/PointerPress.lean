import Anbox.Fydeos.SeatInput

namespace Anbox.Fydeos.PointerPress

open Anbox.Framework
open SeatInput
open TouchForwarding (wlFixed addFixed toFloat)

/-- A window's offset, the location at which the pointer entered the window and its latest one. -/
structure Hover where
  left : Int
  top : Int
  enteredX : wlFixed
  enteredY : wlFixed
  surfaceX : wlFixed
  surfaceY : wlFixed

/-- The listener and the slots, and where the pointer is. -/
structure State where
  pointer : WaylandPointer
  input : AnboxInput
  hover : Option Hover

def init (input : AnboxInput) : State := ⟨⟨(0, 0)⟩, input, none⟩

/-- An event, and the offset of the window that it enters. -/
structure Action where
  left : Int
  top : Int
  event : PointerEvent

/-- The events that the listener sends. -/
def sent (s : State) (e : PointerEvent) : List Event := (WaylandPointer.handle s.pointer s.input e).2.1

def handled (s : State) (e : PointerEvent) : State :=
  { s with
    pointer := (WaylandPointer.handle s.pointer s.input e).1
    input := (WaylandPointer.handle s.pointer s.input e).2.2 }

/-- The pointer is at the latest location that was told of it. -/
def hovers (hover : Option Hover) (a : Action) : Option Hover :=
  match a.event with
  | .Enter surfaceX surfaceY => some ⟨a.left, a.top, surfaceX, surfaceY, surfaceX, surfaceY⟩
  | .Leave => none
  | .Motion surfaceX surfaceY => hover.map fun h => { h with surfaceX, surfaceY }
  | .Button _ _ | .Axis _ _ => hover

def step (s : State) (a : Action) : Option State :=
  some { handled s a.event with hover := hovers s.hover a }

def atPoint (x y : Int) : List Event := [.ABS_MT_POSITION_X x, .ABS_MT_POSITION_Y y]

/-- The position among what is sent. -/
def position (events : List Event) : List Event :=
  events.filter fun
    | .ABS_MT_POSITION_X _ | .ABS_MT_POSITION_Y _ => true
    | _ => false

/-- What a button sends has a position only where it is that of the pointer: the one that a motion
would send there, and that of the window with the location in it. -/
def Lands (s : State) (a : Action) : Prop := ∀ button state, a.event = .Button button state →
  ∀ h, s.hover = some h → position (sent s a.event) ≠ [] →
    position (sent s a.event) =
        position (sent (handled s a.event) (.Motion h.surfaceX h.surfaceY)) ∧
      position (sent s a.event) = atPoint (addFixed h.left h.surfaceX) (addFixed h.top h.surfaceY)

/-- The location in a window is, up to what a truncation leaves, the one at which it was entered, and
the window's offset does not count. -/
def Still (origin : Int) (entered latest : wlFixed) : Prop :=
  (toFloat entered).tdiv 256 = latest.tdiv 256 ∧ addFixed origin latest = latest.tdiv 256

/-- A press, with a slot that is free for it. -/
def Presses (s : State) (e : PointerEvent) : Prop :=
  e = .Button BTN_LEFT WL_POINTER_BUTTON_STATE_PRESSED ∧ s.input.findTouchSlot (-1) ≠ none

def PressedStill (s : State) (a : Action) : Prop := Presses s a.event → ∀ h, s.hover = some h →
  Still h.left h.enteredX h.surfaceX ∧ Still h.top h.enteredY h.surfaceY

/-- The listener has the location at which the window was entered. -/
def Entered (s : State) : Prop := ∀ h, s.hover = some h →
  s.pointer.location_ = (toFloat h.enteredX, toFloat h.enteredY)

theorem entered_step {s t : State} {a : Action} (h : Entered s) (ht : step s a = some t) : Entered t := by
  obtain rfl := Option.some.inj ht
  obtain ⟨left, top, event⟩ := a
  intro hover there
  cases event with
  | Enter surfaceX surfaceY =>
    obtain rfl := Option.some.inj there
    rfl
  | Leave => cases there
  | Motion surfaceX surfaceY =>
    obtain ⟨before, had, rfl⟩ := Option.map_eq_some_iff.mp there
    exact h before had
  | Button button state => exact h hover there
  | Axis axis value => exact h hover there

theorem position_pushSlot (s : AnboxInput) (i : Fin MAX_FINGERS) (events : List Event) :
    position ((s.pushSlot i).1 ++ events) = position events := by
  unfold AnboxInput.pushSlot
  split_ifs
  · rfl
  · rfl

theorem position_down {s : AnboxInput} {i : Fin MAX_FINGERS} (free : s.findTouchSlot (-1) = some i)
    (x y id : Int) :
    position (s.pushFingerDown x y id).1 = atPoint x y := by
  simp only [AnboxInput.pushFingerDown, free]
  exact position_pushSlot _ _ _

theorem position_motion {s : AnboxInput} {i : Fin MAX_FINGERS} {id : Int}
    (found : s.findTouchSlot id = some i) (x y : Int) :
    position (s.pushFingerMotion x y id).1 = atPoint x y := by
  simp only [AnboxInput.pushFingerMotion, found]
  exact position_pushSlot _ _ _

theorem position_up (s : AnboxInput) (id : Int) : position (s.pushFingerUp id).1 = [] := by
  unfold AnboxInput.pushFingerUp
  split
  · rfl
  · exact position_pushSlot _ _ _

/-- The finger has a slot when it is down. -/
theorem pressed_found {s : AnboxInput} {i : Fin MAX_FINGERS} (free : s.findTouchSlot (-1) = some i)
    (x y id : Int) : ∃ j, (s.pushFingerDown x y id).2.findTouchSlot id = some j := by
  have own : (s.pushFingerDown x y id).2.touchSlots i = id := by
    simp only [AnboxInput.pushFingerDown, free, AnboxInput.pushSlot_last]
    exact Function.update_self ..
  cases found : (s.pushFingerDown x y id).2.findTouchSlot id with
  | none => exact absurd own (AnboxInput.findTouchSlot_none found i)
  | some j => exact ⟨j, rfl⟩

def press : PointerEvent := .Button BTN_LEFT WL_POINTER_BUTTON_STATE_PRESSED

section

variable {s : State} {i : Fin MAX_FINGERS}

theorem sent_press (s : State) : sent s press =
    (s.input.pushFingerDown (s.pointer.location_.1.tdiv 256) (s.pointer.location_.2.tdiv 256) 0).1 := rfl

theorem handled_press (s : State) : (handled s press).input =
    (s.input.pushFingerDown (s.pointer.location_.1.tdiv 256) (s.pointer.location_.2.tdiv 256) 0).2 := rfl

theorem addFixed_zero (x : wlFixed) : addFixed 0 x = x.tdiv 256 := by
  rw [addFixed, Int.zero_mul, Int.zero_add]

theorem atPoint_inj {x y x' y' : Int} : atPoint x y = atPoint x' y' ↔ x = x' ∧ y = y' := by
  simp [atPoint]

/-- A press is at the location of the listener, wherever the pointer has gone. -/
theorem position_press (entered : Entered s) {h : Hover} (hover : s.hover = some h)
    (free : s.input.findTouchSlot (-1) = some i) : position (sent s press) =
      atPoint ((toFloat h.enteredX).tdiv 256) ((toFloat h.enteredY).tdiv 256) := by
  rw [sent_press, position_down free, entered h hover]

theorem position_pressed_motion (free : s.input.findTouchSlot (-1) = some i) (x y : wlFixed) :
    position (sent (handled s press) (.Motion x y)) = atPoint (x.tdiv 256) (y.tdiv 256) := by
  obtain ⟨j, found⟩ := pressed_found free (s.pointer.location_.1.tdiv 256)
    (s.pointer.location_.2.tdiv 256) 0
  rw [← handled_press] at found
  have emitted := position_motion found (addFixed 0 x) (addFixed 0 y)
  rw [addFixed_zero, addFixed_zero] at emitted
  rw [← emitted, ← addFixed_zero, ← addFixed_zero]
  rfl

/-- The press, the motion and the location in the window are at one point. -/
theorem position_press_iff (entered : Entered s) {h : Hover} (hover : s.hover = some h)
    (free : s.input.findTouchSlot (-1) = some i) :
    (position (sent s press) = position (sent (handled s press) (.Motion h.surfaceX h.surfaceY)) ∧
      position (sent s press) = atPoint (addFixed h.left h.surfaceX) (addFixed h.top h.surfaceY)) ↔
    Still h.left h.enteredX h.surfaceX ∧ Still h.top h.enteredY h.surfaceY := by
  rw [position_press entered hover free, position_pressed_motion free, atPoint_inj, atPoint_inj]
  constructor
  · intro same
    obtain ⟨⟨x, y⟩, left, top⟩ := same
    exact ⟨⟨x, left.symm.trans x⟩, y, top.symm.trans y⟩
  · intro still
    obtain ⟨⟨x, left⟩, y, top⟩ := still
    exact ⟨⟨x, y⟩, x.trans left.symm, y.trans top.symm⟩

/-- Only a press with a free slot for it has a position. -/
theorem presses_of_position {button state : Nat} (h : position (sent s (.Button button state)) ≠ []) :
    Presses s (.Button button state) := by
  have none : ∀ events : List Event, events = [] → position events = [] := by
    intro events empty
    rw [empty]
    rfl
  simp only [sent, WaylandPointer.handle, WaylandPointer.Button] at h
  split_ifs at h with other left pressed
  · exact absurd rfl h
  · subst left pressed
    refine ⟨rfl, ?_⟩
    intro full
    simp only [AnboxInput.pushFingerDown, full] at h
    exact h rfl
  · exact absurd (position_up s.input 0) h
  · exact absurd rfl h

theorem lands_iff (entered : Entered s) (a : Action) : Lands s a ↔ PressedStill s a := by
  constructor
  · intro lands presses h hover
    obtain ⟨event, some⟩ := presses
    obtain ⟨i, free⟩ := Option.ne_none_iff_exists'.mp some
    refine (position_press_iff entered hover free).mp ?_
    have all := lands _ _ event h hover
    rw [event] at all
    refine all ?_
    change position (sent s press) ≠ []
    rw [position_press entered hover free]
    exact List.cons_ne_nil _ _
  · intro still button state event h hover shown
    rw [event] at shown ⊢
    have presses := presses_of_position shown
    obtain ⟨i, free⟩ := Option.ne_none_iff_exists'.mp presses.2
    rw [presses.1]
    refine (position_press_iff entered hover free).mpr (still ?_ h hover)
    rw [event]
    exact presses

end

/-- Every press is where the pointer is as long as the pointer has stayed, up to what truncation
leaves, where it entered a window whose offset does not count. -/
theorem press_lands_iff (input : AnboxInput) (actions : List Action) :
    Along step Lands (init input) actions ↔ Along step PressedStill (init input) actions :=
  along_congr (fun _ _ _ => entered_step) (fun _ a _ entered _ => lands_iff entered a) actions nofun

/-- A pointer that enters a window at the origin, goes ten pixels to the right and is pressed there. -/
theorem press_where_entered : ¬ ∀ (input : AnboxInput) (actions : List Action),
    Along step Lands (init input) actions := by
  intro h
  have along := h .init [⟨0, 0, .Enter 0 0⟩, ⟨0, 0, .Motion 2560 0⟩, ⟨0, 0, press⟩]
  have lands := (((along _ rfl).2 _ rfl).2 _ rfl).1
  have entered : Entered (init .init) := nofun
  have still := (lands_iff (entered_step (entered_step entered rfl) rfl) _).mp lands ⟨rfl, by decide⟩ _ rfl
  exact absurd still.1.1 (by decide)

end Anbox.Fydeos.PointerPress
