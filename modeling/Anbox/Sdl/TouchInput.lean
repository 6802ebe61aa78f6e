import Anbox.Framework.Run
import Anbox.Fydeos.AnboxInput

namespace Anbox.Sdl.TouchInput

open Anbox.Framework
open Anbox.Framework.MultiTouch
open Anbox.Fydeos (MAX_FINGERS MAX_TRACKING_ID Event)
open Anbox.Graphics (Rect)

/-- The slots are kept as the input of the other platform keeps them. -/
abbrev Slots := Fydeos.AnboxInput

/-- A window's position and size. -/
structure SDLWindow where
  x : Int
  y : Int
  w : Int
  h : Int

/-- The configuration, and what is done with the floats of finger events: whether one is above 1, one
as an int and the product of an int and one as an int. -/
structure Platform (φ : Type) where
  singleWindow : Bool
  noTouchEmulation : Bool
  displayFrame_ : Rect
  atLeast2_0_7 : Bool
  aboveOne : φ → Bool
  toInt : φ → Int
  times : Int → φ → Int

inductive SDLEvent (φ : Type) where
  | MOUSEBUTTONDOWN (button : UInt8) (x y : Int)
  | MOUSEBUTTONUP (button : UInt8)
  | MOUSEMOTION (x y : Int)
  | FINGERDOWN (fingerId : Int64) (x y : φ)
  | FINGERUP (fingerId : Int64)
  | FINGERMOTION (fingerId : Int64) (x y : φ)

def emulatedTouchId_ : Int := 0

/-- The id of a finger is passed as an int. -/
def narrow (fingerId : Int64) : Int := fingerId.toInt32.toInt

namespace Platform

variable {φ : Type} (p : Platform φ) (window : Option SDLWindow)

def adjustToWindow (x y : Int) : Option (Int × Int) := window.map fun w => (x + w.x, y + w.y)

def adjustCoordinates (x y : Int) : Option (Int × Int) :=
  if ¬ p.singleWindow then adjustToWindow window x y else some (x, y)

def calculateTouchCoordinates (fx fy : φ) : Option (Int × Int) :=
  let at_ : Int × Int :=
    if ¬ p.atLeast2_0_7 ∧ (p.aboveOne fx ∨ p.aboveOne fy) then (p.toInt fx, p.toInt fy)
    else
      match window with
      | some w => (p.times w.w fx, p.times w.h fy)
      | none => (p.times p.displayFrame_.width fx, p.times p.displayFrame_.height fy)
  if p.singleWindow then some at_ else adjustToWindow window at_.1 at_.2

/-- What is sent to the touch device. `window` is the focused one, if there is one. -/
def processInputEvent (s : Slots) : SDLEvent φ → List Event × Slots
  | .MOUSEBUTTONDOWN _ x y =>
    if p.noTouchEmulation then ([], s)
    else
      match p.adjustCoordinates window x y with
      | none => ([], s)
      | some at_ => s.pushFingerDown at_.1 at_.2 emulatedTouchId_
  | .MOUSEBUTTONUP _ => if p.noTouchEmulation then ([], s) else s.pushFingerUp emulatedTouchId_
  | .MOUSEMOTION x y =>
    match p.adjustCoordinates window x y with
    | none => ([], s)
    | some at_ =>
      if p.noTouchEmulation then ([], s) else s.pushFingerMotion at_.1 at_.2 emulatedTouchId_
  | .FINGERDOWN fingerId x y =>
    match p.calculateTouchCoordinates window x y with
    | none => ([], s)
    | some at_ => s.pushFingerDown at_.1 at_.2 (narrow fingerId)
  | .FINGERUP fingerId => s.pushFingerUp (narrow fingerId)
  | .FINGERMOTION fingerId x y =>
    match p.calculateTouchCoordinates window x y with
    | none => ([], s)
    | some at_ => s.pushFingerMotion at_.1 at_.2 (narrow fingerId)

end Platform

/-- What a contact stems from. -/
inductive Contact where
  | mouse
  | finger (fingerId : Int64)
  deriving DecidableEq

def Contact.fingerId : Contact → Int
  | .mouse => emulatedTouchId_
  | .finger fingerId => narrow fingerId

/-- The slots and the device that replays what is sent. Besides, there are the buttons and fingers that
are down and, for each slot, the contact that was begun in it and has not been lifted. -/
structure State where
  slots : Slots
  device : Device (Fin MAX_FINGERS)
  buttons : List UInt8
  fingers : List Int64
  owner : Fin MAX_FINGERS → Option Contact

def init : State where
  slots := .init
  device := ⟨⟨0, Nat.succ_pos 9⟩, fun _ => ⟨-1, 0, 0⟩, fun _ => ⟨-1, 0, 0⟩⟩
  buttons := []
  fingers := []
  owner := fun _ => none

/-- An event, and the focused window when it comes. -/
structure Action (φ : Type) where
  event : SDLEvent φ
  window : Option SDLWindow

/-- What is sent is replayed, and is for the slot in which the device ends. -/
def State.sends (s : State) (sent : List Event × Slots) (whose : Option Contact) : State :=
  { s with
    slots := sent.2
    device := s.device.replay sent.1
    owner := if sent.1 = [] then s.owner else Function.update s.owner (s.device.replay sent.1).slot whose }

/-- A motion begins and lifts no contact. -/
def State.moves (s : State) (sent : List Event × Slots) : State :=
  { s with slots := sent.2, device := s.device.replay sent.1 }

/-- Buttons and fingers go down when they are up, and up when they are down. -/
def step {φ : Type} (p : Platform φ) (s : State) (a : Action φ) : Option State :=
  let sent := p.processInputEvent a.window s.slots a.event
  match a.event with
  | .MOUSEBUTTONDOWN button _ _ =>
    if button ∈ s.buttons then none
    else some { s.sends sent (some .mouse) with buttons := button :: s.buttons }
  | .MOUSEBUTTONUP button =>
    if button ∈ s.buttons then some { s.sends sent none with buttons := s.buttons.filter (· ≠ button) }
    else none
  | .MOUSEMOTION _ _ => some (s.moves sent)
  | .FINGERDOWN fingerId _ _ =>
    if fingerId ∈ s.fingers then none
    else some { s.sends sent (some (.finger fingerId)) with fingers := fingerId :: s.fingers }
  | .FINGERUP fingerId =>
    if fingerId ∈ s.fingers then some { s.sends sent none with fingers := s.fingers.filter (· ≠ fingerId) }
    else none
  | .FINGERMOTION _ _ _ => some (s.moves sent)

/-- What the last report shows: contacts with tracking ids of their own, one of them at most of the
mouse, none of a finger that has been released, and none at all when everything has. -/
structure Sound (s : State) : Prop where
  distinct : ∀ i j, (s.device.reported i).active → (s.device.reported j).active →
    (s.device.reported i).trackingId = (s.device.reported j).trackingId → i = j
  one_mouse : ∀ i j, (s.device.reported i).active → (s.device.reported j).active →
    s.owner i = some .mouse → s.owner j = some .mouse → i = j
  lifted : ∀ i fingerId, (s.device.reported i).active → s.owner i = some (.finger fingerId) →
    fingerId ∈ s.fingers
  none_left : s.buttons = [] → s.fingers = [] → ∀ i, ¬ (s.device.reported i).active

/-- The tracking id that is sent for an id. -/
def trackingId (id : Int) : Int := id.tmod MAX_TRACKING_ID + 1

/-- An id whose contact is shown is not the one that stands for a free slot, and its tracking id is that
of no other contact. -/
def Fresh (s : State) (id : Int) : Prop := 0 ≤ trackingId id →
  id ≠ -1 ∧ ∀ i, (s.device.reported i).active → (s.device.reported i).trackingId ≠ trackingId id

/-- Each contact that is begun is fresh: its event is in a window and there is a slot for it. -/
def Regular {φ : Type} (p : Platform φ) (s : State) (a : Action φ) : Prop :=
  s.slots.findTouchSlot (-1) ≠ none →
    match a.event with
    | .MOUSEBUTTONDOWN _ x y =>
      p.noTouchEmulation = false → p.adjustCoordinates a.window x y ≠ none → Fresh s emulatedTouchId_
    | .FINGERDOWN fingerId x y =>
      p.calculateTouchCoordinates a.window x y ≠ none → Fresh s (narrow fingerId)
    | .MOUSEBUTTONUP _ | .MOUSEMOTION _ _ | .FINGERUP _ | .FINGERMOTION _ _ _ => True

/-- The button or finger of a contact is down. -/
def State.down (s : State) : Contact → Prop
  | .mouse => s.buttons ≠ []
  | .finger fingerId => fingerId ∈ s.fingers

/-- The table of slots holds what the replayed device shows. -/
structure Consistent (s : State) : Prop where
  free : ∀ i, s.slots.touchSlots i = -1 → ¬ (s.device.slots i).active
  tracked : ∀ i, s.slots.touchSlots i ≠ -1 →
    (s.device.slots i).trackingId = trackingId (s.slots.touchSlots i)
  owned : ∀ i, (s.device.slots i).active →
    ∃ c, s.owner i = some c ∧ s.down c ∧ s.slots.touchSlots i = c.fingerId
  distinct : ∀ i j, (s.device.slots i).active → (s.device.slots j).active →
    (s.device.slots i).trackingId = (s.device.slots j).trackingId → i = j
  at_last : ∀ i, s.slots.lastSlot = some i → s.device.slot = i
  reported : s.device.reported = s.device.slots

theorem consistent_init : Consistent init where
  free _ _ := by simp [init, Slot.active]
  tracked _ h := absurd rfl h
  owned _ h := absurd h (by simp [init, Slot.active])
  distinct _ _ h := absurd h (by simp [init, Slot.active])
  at_last _ h := by cases h
  reported := rfl

/-- A contact that is shown is in the slot that the table has for it. -/
theorem Consistent.table {s : State} (h : Consistent s) {i : Fin MAX_FINGERS}
    (active : (s.device.slots i).active) {c : Contact} (owner : s.owner i = some c) :
    s.slots.touchSlots i = c.fingerId := by
  obtain ⟨d, own, -, table⟩ := h.owned i active
  rw [table, Option.some.inj (own.symm.trans owner)]

/-- The table has the id of a contact that is shown for one slot only. -/
theorem Consistent.only {s : State} (h : Consistent s) {i j : Fin MAX_FINGERS}
    (active : (s.device.slots i).active) (same : s.slots.touchSlots i = s.slots.touchSlots j) : i = j := by
  have taken : s.slots.touchSlots i ≠ -1 := fun free => h.free i free active
  have tracking : (s.device.slots i).trackingId = (s.device.slots j).trackingId := by
    rw [h.tracked i taken, h.tracked j (same ▸ taken), same]
  have shown : (s.device.slots j).active := by
    rw [Slot.active, ← tracking]
    exact active
  exact h.distinct i j active shown tracking

theorem Consistent.sound {s : State} (h : Consistent s) : Sound s where
  distinct := by
    rw [h.reported]
    exact h.distinct
  one_mouse i j hi hj own other := by
    rw [h.reported] at hi hj
    exact h.only hi ((h.table hi own).trans (h.table hj other).symm)
  lifted i fingerId hi own := by
    rw [h.reported] at hi
    obtain ⟨c, owner, down, -⟩ := h.owned i hi
    obtain rfl := Option.some.inj (own.symm.trans owner)
    exact down
  none_left buttons fingers i hi := by
    rw [h.reported] at hi
    obtain ⟨c, -, down, -⟩ := h.owned i hi
    cases c with
    | mouse => exact down buttons
    | finger fingerId =>
      rw [State.down, fingers] at down
      cases down

/-- A report on the slot `i`: what it has to be for the rest to stay. -/
structure Reports (s t : State) (i : Fin MAX_FINGERS) (id : Int) (slot : Slot) : Prop where
  slots : t.slots = { s.slots.setSlot i id with lastSlot := some i }
  device : t.device = s.device.report i slot
  owner : ∀ j, j ≠ i → t.owner j = s.owner j
  down : ∀ j c, j ≠ i → (s.device.slots j).active → s.owner j = some c → s.down c → t.down c
  free : id = -1 → ¬ slot.active
  tracked : id ≠ -1 → slot.trackingId = trackingId id
  owned : slot.active → ∃ c, t.owner i = some c ∧ t.down c ∧ id = c.fingerId
  apart : slot.active → ∀ j, j ≠ i → (s.device.slots j).active →
    (s.device.slots j).trackingId ≠ slot.trackingId

section

variable {s t : State} {i : Fin MAX_FINGERS} {id : Int} {slot : Slot}

theorem Reports.table_self (r : Reports s t i id slot) : t.slots.touchSlots i = id := by
  rw [r.slots]
  exact Function.update_self ..

theorem Reports.table_other (r : Reports s t i id slot) {j : Fin MAX_FINGERS} (h : j ≠ i) :
    t.slots.touchSlots j = s.slots.touchSlots j := by
  rw [r.slots]
  exact Function.update_of_ne h ..

theorem Reports.self (r : Reports s t i id slot) : t.device.slots i = slot := by
  rw [r.device, Device.report_self]

theorem Reports.other (r : Reports s t i id slot) {j : Fin MAX_FINGERS} (h : j ≠ i) :
    t.device.slots j = s.device.slots j := by
  rw [r.device, Device.report_other h]

theorem Reports.consistent (r : Reports s t i id slot) (h : Consistent s) : Consistent t where
  free j table := by
    by_cases hj : j = i
    · subst hj
      rw [r.table_self] at table
      rw [r.self]
      exact r.free table
    · rw [r.table_other hj] at table
      rw [r.other hj]
      exact h.free j table
  tracked j table := by
    by_cases hj : j = i
    · subst hj
      rw [r.table_self] at table ⊢
      rw [r.self]
      exact r.tracked table
    · rw [r.table_other hj] at table ⊢
      rw [r.other hj]
      exact h.tracked j table
  owned j active := by
    by_cases hj : j = i
    · subst hj
      rw [r.self] at active
      rw [r.table_self]
      exact r.owned active
    · rw [r.other hj] at active
      obtain ⟨c, owner, down, table⟩ := h.owned j active
      rw [r.owner j hj, r.table_other hj]
      exact ⟨c, owner, r.down j c hj active owner down, table⟩
  distinct j k hj hk same := by
    by_cases first : j = i
    · subst first
      by_cases second : k = j
      · exact second.symm
      · rw [r.self] at hj same
        rw [r.other second] at hk same
        exact absurd same.symm (r.apart hj k second hk)
    · rw [r.other first] at hj same
      by_cases second : k = i
      · subst second
        rw [r.self] at hk same
        exact absurd same (r.apart hk j first hj)
      · rw [r.other second] at hk same
        exact h.distinct j k hj hk same
  at_last j last := by
    rw [r.slots] at last
    rw [r.device]
    exact Option.some.inj last
  reported := by
    rw [r.device]
    rfl

/-- Nothing is reported, and what is shown is still down. -/
theorem Consistent.congr (h : Consistent s) (slots : t.slots = s.slots) (device : t.device = s.device)
    (owner : t.owner = s.owner)
    (down : ∀ j c, (s.device.slots j).active → s.owner j = some c → s.down c → t.down c) :
    Consistent t := by
  constructor
  · rw [slots, device]
    exact h.free
  · rw [slots, device]
    exact h.tracked
  · intro j active
    rw [device] at active
    obtain ⟨c, own, held, table⟩ := h.owned j active
    rw [owner, slots]
    exact ⟨c, own, down j c active own held, table⟩
  · rw [device]
    exact h.distinct
  · rw [slots, device]
    exact h.at_last
  · rw [device]
    exact h.reported

/-- A contact goes down. -/
theorem Consistent.begins (h : Consistent s) {c : Contact} (x y : Int)
    (fresh : s.slots.findTouchSlot (-1) ≠ none → Fresh s c.fingerId)
    (slots : t.slots = (s.slots.pushFingerDown x y c.fingerId).2)
    (device : t.device = s.device.replay (s.slots.pushFingerDown x y c.fingerId).1)
    (owner : t.owner = if (s.slots.pushFingerDown x y c.fingerId).1 = [] then s.owner
      else Function.update s.owner t.device.slot (some c))
    (held : t.down c) (down : ∀ d, s.down d → t.down d) : Consistent t := by
  cases find : s.slots.findTouchSlot (-1) with
  | none =>
    have nothing : s.slots.pushFingerDown x y c.fingerId = ([], s.slots) := by
      rw [Fydeos.AnboxInput.pushFingerDown, find]
    rw [nothing] at slots device owner
    exact h.congr slots device owner fun _ d _ _ => down d
  | some i =>
    have free := Fydeos.AnboxInput.findTouchSlot_some find
    obtain ⟨input, report⟩ := Fydeos.AnboxInput.pushFingerDown_spec h.at_last find x y c.fingerId
    rw [input] at slots
    rw [report] at device
    have sent : (s.slots.pushFingerDown x y c.fingerId).1 ≠ [] := by
      simp [Fydeos.AnboxInput.pushFingerDown, find]
    rw [if_neg sent, device] at owner
    have new := fresh (by rw [find]; exact nofun)
    have r : Reports s t i c.fingerId ⟨c.fingerId.tmod MAX_TRACKING_ID + 1, x, y⟩ := by
      constructor
      · exact slots
      · exact device
      · intro j hj
        rw [owner]
        exact Function.update_of_ne hj ..
      · exact fun _ d _ _ _ => down d
      · intro unmarked active
        exact (new active).1 unmarked
      · exact fun _ => rfl
      · intro _
        refine ⟨c, ?_, held, rfl⟩
        rw [owner]
        exact Function.update_self ..
      · intro active j _ other
        rw [← h.reported] at other ⊢
        exact (new active).2 j other
    exact r.consistent h

/-- Positions are sent for the slot that the table has for an id, if there is one. -/
theorem Consistent.moved (h : Consistent s) (x y id : Int) (down : ∀ c, s.down c → t.down c)
    (slots : t.slots = (s.slots.pushFingerMotion x y id).2)
    (device : t.device = s.device.replay (s.slots.pushFingerMotion x y id).1)
    (owner : t.owner = s.owner) : Consistent t := by
  cases find : s.slots.findTouchSlot id with
  | none =>
    have nothing : s.slots.pushFingerMotion x y id = ([], s.slots) := by
      rw [Fydeos.AnboxInput.pushFingerMotion, find]
    rw [nothing] at slots device
    exact h.congr slots device owner fun _ d _ _ => down d
  | some i =>
    have table := Fydeos.AnboxInput.findTouchSlot_some find
    obtain ⟨input, report⟩ := Fydeos.AnboxInput.pushFingerMotion_spec h.at_last find x y
    rw [input] at slots
    rw [report] at device
    have r : Reports s t i id ((s.device.slots i).moved x y) := by
      constructor
      · have same : s.slots.setSlot i id = s.slots := by
          rw [← table, Fydeos.AnboxInput.setSlot, Function.update_eq_self]
        rw [same]
        exact slots
      · exact device
      · intro j _
        rw [owner]
      · exact fun _ d _ _ _ => down d
      · intro unmarked
        exact h.free i (table.trans unmarked)
      · intro marked
        have tracked := h.tracked i (table.symm ▸ marked)
        rwa [table] at tracked
      · intro active
        obtain ⟨c, own, held, same⟩ := h.owned i active
        exact ⟨c, owner ▸ own, down c held, table.symm.trans same⟩
      · intro active j hj other same
        exact hj (h.distinct j i other active same)
    exact r.consistent h

/-- A contact is released: it is in the slot that is found, or is not shown. -/
theorem Consistent.ends (h : Consistent s) {c : Contact}
    (slots : t.slots = (s.slots.pushFingerUp c.fingerId).2)
    (device : t.device = s.device.replay (s.slots.pushFingerUp c.fingerId).1)
    (owner : t.owner = if (s.slots.pushFingerUp c.fingerId).1 = [] then s.owner
      else Function.update s.owner t.device.slot none)
    (down : ∀ d, d ≠ c → s.down d → t.down d) : Consistent t := by
  cases find : s.slots.findTouchSlot c.fingerId with
  | none =>
    have nothing : s.slots.pushFingerUp c.fingerId = ([], s.slots) := by
      rw [Fydeos.AnboxInput.pushFingerUp, find]
    rw [nothing] at slots device owner
    refine h.congr slots device owner ?_
    intro j d active own
    refine down d ?_
    intro same
    exact Fydeos.AnboxInput.findTouchSlot_none find j (same ▸ h.table active own)
  | some i =>
    have table := Fydeos.AnboxInput.findTouchSlot_some find
    obtain ⟨input, report⟩ := Fydeos.AnboxInput.pushFingerUp_spec h.at_last find
    rw [input] at slots
    rw [report] at device
    have sent : (s.slots.pushFingerUp c.fingerId).1 ≠ [] := by
      simp [Fydeos.AnboxInput.pushFingerUp, find]
    rw [if_neg sent, device] at owner
    have lifted : ¬ (s.device.slots i).lifted.active := by simp [Slot.active, Slot.lifted]
    have r : Reports s t i (-1) (s.device.slots i).lifted := by
      constructor
      · exact slots
      · exact device
      · intro j hj
        rw [owner]
        exact Function.update_of_ne hj ..
      · intro j d hj active own
        refine down d ?_
        intro same
        -- Another slot that shows the contact would be the one that is found.
        have twice : s.slots.touchSlots j = s.slots.touchSlots i := by
          rw [table, ← same]
          exact h.table active own
        exact hj (h.only active twice)
      · exact fun _ => lifted
      · exact fun marked => absurd rfl marked
      · exact fun active => absurd active lifted
      · exact fun active => absurd active lifted
    exact r.consistent h

end

section

variable {φ : Type} (p : Platform φ) (window : Option SDLWindow)

theorem process_button_down (s : Slots) (button : UInt8) (x y : Int) :
    p.processInputEvent window s (.MOUSEBUTTONDOWN button x y) = ([], s) ∨
      p.noTouchEmulation = false ∧ p.adjustCoordinates window x y ≠ none ∧
        ∃ x' y', p.processInputEvent window s (.MOUSEBUTTONDOWN button x y) =
          s.pushFingerDown x' y' Contact.mouse.fingerId := by
  simp only [Platform.processInputEvent]
  cases p.noTouchEmulation with
  | true => exact .inl rfl
  | false =>
    cases p.adjustCoordinates window x y with
    | none => exact .inl rfl
    | some at_ => exact .inr ⟨rfl, nofun, at_.1, at_.2, rfl⟩

theorem process_finger_down (s : Slots) (fingerId : Int64) (x y : φ) :
    p.processInputEvent window s (.FINGERDOWN fingerId x y) = ([], s) ∨
      p.calculateTouchCoordinates window x y ≠ none ∧
        ∃ x' y', p.processInputEvent window s (.FINGERDOWN fingerId x y) =
          s.pushFingerDown x' y' (Contact.finger fingerId).fingerId := by
  simp only [Platform.processInputEvent]
  cases p.calculateTouchCoordinates window x y with
  | none => exact .inl rfl
  | some at_ => exact .inr ⟨nofun, at_.1, at_.2, rfl⟩

theorem process_mouse_motion (s : Slots) (x y : Int) :
    p.processInputEvent window s (.MOUSEMOTION x y) = ([], s) ∨
      ∃ x' y' id, p.processInputEvent window s (.MOUSEMOTION x y) = s.pushFingerMotion x' y' id := by
  simp only [Platform.processInputEvent]
  cases p.adjustCoordinates window x y with
  | none => exact .inl rfl
  | some at_ =>
    cases p.noTouchEmulation with
    | true => exact .inl rfl
    | false => exact .inr ⟨at_.1, at_.2, emulatedTouchId_, rfl⟩

theorem process_finger_motion (s : Slots) (fingerId : Int64) (x y : φ) :
    p.processInputEvent window s (.FINGERMOTION fingerId x y) = ([], s) ∨
      ∃ x' y' id, p.processInputEvent window s (.FINGERMOTION fingerId x y) =
        s.pushFingerMotion x' y' id := by
  simp only [Platform.processInputEvent]
  cases p.calculateTouchCoordinates window x y with
  | none => exact .inl rfl
  | some at_ => exact .inr ⟨at_.1, at_.2, narrow fingerId, rfl⟩

variable {p window} {s t : State}

/-- What a press does, whether it is placed or not. -/
theorem Consistent.goes_down (h : Consistent s) {c : Contact} {sent : List Event × Slots}
    {buttons : List UInt8} {fingers : List Int64}
    (placed : sent = ([], s.slots) ∨ (s.slots.findTouchSlot (-1) ≠ none → Fresh s c.fingerId) ∧
      ∃ x y, sent = s.slots.pushFingerDown x y c.fingerId)
    (held : State.down { s.sends sent (some c) with buttons, fingers } c)
    (down : ∀ d, s.down d → State.down { s.sends sent (some c) with buttons, fingers } d) :
    Consistent { s.sends sent (some c) with buttons, fingers } := by
  obtain rfl | ⟨fresh, x, y, rfl⟩ := placed
  · exact h.congr rfl rfl rfl fun _ d _ _ => down d
  · exact h.begins x y fresh rfl rfl rfl held down

theorem button_down_consistent (h : Consistent s) {button : UInt8} {x y : Int}
    (regular : Regular p s ⟨.MOUSEBUTTONDOWN button x y, window⟩)
    (ht : step p s ⟨.MOUSEBUTTONDOWN button x y, window⟩ = some t) : Consistent t := by
  simp only [step] at ht
  split_ifs at ht
  obtain rfl := Option.some.inj ht
  apply h.goes_down
  · obtain nothing | ⟨emulation, place, x', y', sent⟩ := process_button_down p window s.slots button x y
    · exact .inl nothing
    · exact .inr ⟨fun room => regular room emulation place, x', y', sent⟩
  · exact List.cons_ne_nil _ _
  · intro c was
    cases c with
    | mouse => exact List.cons_ne_nil _ _
    | finger fingerId => exact was

theorem finger_down_consistent (h : Consistent s) {fingerId : Int64} {x y : φ}
    (regular : Regular p s ⟨.FINGERDOWN fingerId x y, window⟩)
    (ht : step p s ⟨.FINGERDOWN fingerId x y, window⟩ = some t) : Consistent t := by
  simp only [step] at ht
  split_ifs at ht
  obtain rfl := Option.some.inj ht
  apply h.goes_down
  · obtain nothing | ⟨place, x', y', sent⟩ := process_finger_down p window s.slots fingerId x y
    · exact .inl nothing
    · exact .inr ⟨fun room => regular room place, x', y', sent⟩
  · exact List.mem_cons_self
  · intro c was
    cases c with
    | mouse => exact was
    | finger fingerId => exact List.mem_cons_of_mem _ was

theorem button_up_consistent (h : Consistent s) (emulation : p.noTouchEmulation = false) {button : UInt8}
    (ht : step p s ⟨.MOUSEBUTTONUP button, window⟩ = some t) : Consistent t := by
  have sent : p.processInputEvent window s.slots (.MOUSEBUTTONUP button) =
      s.slots.pushFingerUp Contact.mouse.fingerId := by
    simp only [Platform.processInputEvent, emulation]
    rfl
  simp only [step] at ht
  split_ifs at ht
  obtain rfl := Option.some.inj ht
  rw [sent]
  refine h.ends rfl rfl rfl ?_
  intro c other was
  cases c with
  | mouse => exact absurd rfl other
  | finger fingerId => exact was

theorem finger_up_consistent (h : Consistent s) {fingerId : Int64}
    (ht : step p s ⟨.FINGERUP fingerId, window⟩ = some t) : Consistent t := by
  simp only [step] at ht
  split_ifs at ht
  obtain rfl := Option.some.inj ht
  refine h.ends (c := .finger fingerId) rfl rfl rfl ?_
  intro c other was
  cases c with
  | mouse => exact was
  | finger fingerId' =>
    refine List.mem_filter.mpr ⟨was, decide_eq_true ?_⟩
    exact fun same => other (congrArg Contact.finger same)

theorem step_consistent (emulation : p.noTouchEmulation = false) (h : Consistent s) {a : Action φ}
    (regular : Regular p s a) (ht : step p s a = some t) : Consistent t := by
  obtain ⟨event, window⟩ := a
  cases event with
  | MOUSEBUTTONDOWN button x y => exact button_down_consistent h regular ht
  | MOUSEBUTTONUP button => exact button_up_consistent h emulation ht
  | MOUSEMOTION x y =>
    obtain rfl := Option.some.inj ht
    obtain nothing | ⟨x', y', id, sent⟩ := process_mouse_motion p window s.slots x y
    · rw [nothing]
      exact h
    · rw [sent]
      exact h.moved x' y' id (fun _ was => was) rfl rfl rfl
  | FINGERDOWN fingerId x y => exact finger_down_consistent h regular ht
  | FINGERUP fingerId => exact finger_up_consistent h ht
  | FINGERMOTION fingerId x y =>
    obtain rfl := Option.some.inj ht
    obtain nothing | ⟨x', y', id, sent⟩ :=
      process_finger_motion p window s.slots fingerId x y
    · rw [nothing]
      exact h
    · rw [sent]
      exact h.moved x' y' id (fun _ was => was) rfl rfl rfl

/-- Where each contact that is begun is fresh, the touch device shows no stuck or doubled one. -/
theorem input_sound (p : Platform φ) (emulation : p.noTouchEmulation = false) (actions : List (Action φ))
    (regular : Along (step p) (Regular p) init actions) : Always (step p) Sound init actions := by
  have consistent : Always (step p) Consistent init actions :=
    always_of_along (fun _ _ _ h fresh ht => step_consistent emulation h fresh ht) consistent_init regular
  exact consistent.mono fun _ h => h.sound

end

/-- A platform with a single window, where the fingers are all at one place. -/
def single : Platform Unit where
  singleWindow := true
  noTouchEmulation := false
  displayFrame_ := ⟨0, 0, 640, 480⟩
  atLeast2_0_7 := true
  aboveOne _ := false
  toInt _ := 0
  times _ _ := 0

/-- A button and a finger. -/
theorem button_and_finger_sound : Always (step single) Sound init
    [⟨.MOUSEBUTTONDOWN 1 5 5, none⟩, ⟨.FINGERDOWN 3 () (), none⟩, ⟨.MOUSEBUTTONUP 1, none⟩,
      ⟨.FINGERUP 3, none⟩] := by
  apply input_sound single rfl
  apply along_cons rfl
  · exact fun _ _ _ _ => ⟨by decide, by decide⟩
  apply along_cons rfl
  · exact fun _ _ _ => ⟨by decide, by decide⟩
  apply along_cons rfl
  · exact fun _ => trivial
  apply along_cons rfl
  · exact fun _ => trivial
  trivial

/-- Two buttons are two contacts of one tracking id. -/
theorem two_buttons_doubled : ¬ ∀ (p : Platform Unit) (actions : List (Action Unit)),
    p.noTouchEmulation = false → Always (step p) Sound init actions := by
  intro h
  have sound := h single [⟨.MOUSEBUTTONDOWN 1 5 5, none⟩, ⟨.MOUSEBUTTONDOWN 3 5 5, none⟩] rfl
  have doubled := ((sound.2 _ rfl).2 _ rfl).distinct 0 1 (by decide) (by decide) (by decide)
  exact absurd doubled (by decide)

end Anbox.Sdl.TouchInput
