import Anbox.Framework.Run
import Anbox.Fydeos.TouchForwarding

namespace Anbox.Fydeos.SeatInput

open Anbox.Framework
open Anbox.Graphics (Rect)
open TouchForwarding (wlFixed addFixed toFloat)

inductive Capability where
  | pointer
  | keyboard
  | touch
  deriving DecidableEq

def Capability.bit : Capability → BitVec 32
  | .pointer => 1
  | .keyboard => 2
  | .touch => 4

/-- The seat has the capability, by a mask of its capabilities. -/
def Capability.isIn (c : Capability) (capabilities : BitVec 32) : Prop := capabilities &&& c.bit ≠ 0

instance (c : Capability) (capabilities : BitVec 32) : Decidable (c.isIn capabilities) :=
  inferInstanceAs (Decidable (_ ≠ _))

/-! The listeners. -/

inductive PointerEvent where
  | Enter (surfaceX surfaceY : wlFixed)
  | Leave
  | Motion (surfaceX surfaceY : wlFixed)
  | Button (button state : Nat)
  | Axis (axis : Nat) (value : wlFixed)

/-- `rect` is that of the window the surface belongs to. -/
inductive TouchEvent where
  | Down (rect : Rect) (id : Int) (x y : wlFixed)
  | Up (id : Int)
  | Motion (id : Int) (x y : wlFixed)
  | Frame
  | Cancel

def BTN_LEFT : Nat := 0x110

/-- `BTN_MIDDLE`, `BTN_RIGHT`, `BTN_BACK`, `BTN_SIDE`, `BTN_FORWARD` and `BTN_EXTRA`. -/
def otherButtons : List Nat := [0x112, 0x111, 0x116, 0x113, 0x115, 0x114]

def WL_POINTER_BUTTON_STATE_PRESSED : Nat := 1

structure WaylandPointer where
  location_ : Int × Int

/-- What a handler makes of its listener and of the slots, and the events it has pushed. -/
abbrev Handler (l ε : Type) := l → AnboxInput → ε → l × List Event × AnboxInput

namespace WaylandPointer

def Button (p : WaylandPointer) (s : AnboxInput) (button state : Nat) : List Event × AnboxInput :=
  if button ≠ BTN_LEFT ∧ button ∉ otherButtons then ([], s)
  else if button = BTN_LEFT then
    if state = WL_POINTER_BUTTON_STATE_PRESSED then
      s.pushFingerDown (p.location_.1.tdiv 256) (p.location_.2.tdiv 256) 0
    else s.pushFingerUp 0
  else ([], s)

/-- `current_window_location_` is never set. -/
def handle : Handler WaylandPointer PointerEvent := fun p s e =>
  match e with
  | .Enter surfaceX surfaceY => ({ p with location_ := (toFloat surfaceX, toFloat surfaceY) }, [], s)
  | .Leave => (p, [], s)
  | .Motion surfaceX surfaceY =>
    (p, s.pushFingerMotion (addFixed 0 surfaceX) (addFixed 0 surfaceY) 0)
  | .Button button state => (p, p.Button s button state)
  | .Axis _ _ => (p, [], s)

end WaylandPointer

structure WaylandTouch where
  currentLeft_ : Int
  currentTop_ : Int

def WaylandTouch.handle : Handler WaylandTouch TouchEvent := fun t s e =>
  match e with
  | .Down rect id x y =>
    ({ t with currentLeft_ := rect.left_, currentTop_ := rect.top_ },
      s.pushFingerDown (addFixed rect.left_ x) (addFixed rect.top_ y) id)
  | .Up id => (t, s.pushFingerUp id)
  | .Motion id x y =>
    (t, s.pushFingerMotion (addFixed t.currentLeft_ x) (addFixed t.currentTop_ y) id)
  | .Frame => (t, [], s)
  | .Cancel => (t, [], s)

/-- An event is handled by all listeners, one after the other. -/
def dispatch {l ε : Type} (handle : Handler l ε) (e : ε) :
    List l → AnboxInput → List l × List (List Event) × AnboxInput
  | [], s => ([], [], s)
  | p :: ps, s =>
    ((handle p s e).1 :: (dispatch handle e ps (handle p s e).2.2).1,
      (handle p s e).2.1 :: (dispatch handle e ps (handle p s e).2.2).2.1,
      (dispatch handle e ps (handle p s e).2.2).2.2)

/-! The program. -/

/-- A device of the input manager, by its name. -/
structure Device where
  name : String
  deriving DecidableEq

inductive InputEvent where
  | EV_KEY (code : Nat) (value : Int)
  | touch (event : Event)

/-- What is sent, and the device it is sent to: `none` is one that is not there. -/
structure Sent where
  device : Option Nat
  events : List InputEvent

/-- The listeners that were made, the devices of the input manager in their order and the variables of
`AnboxInput`, which point to devices. `announced` is what the seat has announced last. -/
structure State where
  pointers : List WaylandPointer
  keyboards : Nat
  touches : List WaylandTouch
  announced : BitVec 32
  devices : List Device
  pointer_ : Option Nat
  keyboard_ : Option Nat
  touch_ : Option Nat
  input : AnboxInput

/-- The slots are not set before the devices are there. -/
def init (touchSlots : Fin MAX_FINGERS → Int) : State where
  pointers := []
  keyboards := 0
  touches := []
  announced := 0
  devices := []
  pointer_ := none
  keyboard_ := none
  touch_ := none
  input := { touchSlots, lastSlot := none }

inductive Action where
  | capabilities (capabilities : BitVec 32) (unset : WaylandTouch)
  | workspaceInfo
  | key (key state : Nat)
  | pointer (event : PointerEvent)
  | touch (event : TouchEvent)

namespace State

/-- How many listeners there are for a capability. -/
def listeners (s : State) : Capability → Nat
  | .pointer => s.pointers.length
  | .keyboard => s.keyboards
  | .touch => s.touches.length

/-- The listener of the seat. The variables of a new touch listener are not set. -/
def seatCapabilities (s : State) (capabilities : BitVec 32) (unset : WaylandTouch) : State :=
  { s with
    pointers :=
      if Capability.pointer.isIn capabilities then s.pointers ++ [⟨(0, 0)⟩] else s.pointers
    keyboards := if Capability.keyboard.isIn capabilities then s.keyboards + 1 else s.keyboards
    touches := if Capability.touch.isIn capabilities then s.touches ++ [unset] else s.touches
    announced := capabilities }

/-- `AnboxInput::init`, called by `shell_workspace_info`. -/
def createDevices (s : State) : State :=
  { s with
    devices := s.devices ++ [⟨"anbox-pointer"⟩, ⟨"anbox-keyboard"⟩, ⟨"anbox-touch"⟩]
    pointer_ := some s.devices.length
    keyboard_ := some (s.devices.length + 1)
    touch_ := some (s.devices.length + 2)
    input := { s.input with touchSlots := fun _ => -1 } }

def handlePointer (s : State) (e : PointerEvent) : List WaylandPointer × List (List Event) × AnboxInput :=
  dispatch WaylandPointer.handle e s.pointers s.input

def handleTouch (s : State) (e : TouchEvent) : List WaylandTouch × List (List Event) × AnboxInput :=
  dispatch WaylandTouch.handle e s.touches s.input

/-- Events are sent where there are any. -/
def sendTouch (s : State) (pushed : List (List Event)) : List Sent :=
  (pushed.filter fun events => !events.isEmpty).map fun events => ⟨s.touch_, events.map .touch⟩

end State

def WL_KEYBOARD_KEY_STATE_PRESSED : Nat := 1

def WL_KEYBOARD_KEY_STATE_RELEASED : Nat := 0

/-- The events of `WaylandKeyboard::Key`. -/
def keyboardEvents (key state : Nat) : List InputEvent :=
  (if state = WL_KEYBOARD_KEY_STATE_PRESSED then [.EV_KEY key 1] else []) ++
    if state = WL_KEYBOARD_KEY_STATE_RELEASED then [.EV_KEY key 0] else []

/-- Keys come over the keyboards that were got from the seat. -/
def step (s : State) : Action → Option State
  | .capabilities capabilities unset => some (s.seatCapabilities capabilities unset)
  | .workspaceInfo => some s.createDevices
  | .key _ _ => if 0 < s.keyboards then some s else none
  | .pointer e => some { s with pointers := (s.handlePointer e).1, input := (s.handlePointer e).2.2 }
  | .touch e => some { s with touches := (s.handleTouch e).1, input := (s.handleTouch e).2.2 }

/-- What is sent in a step. -/
def sends (s : State) : Action → List Sent
  | .capabilities _ _ | .workspaceInfo => []
  | .key key state => List.replicate s.keyboards ⟨s.keyboard_, keyboardEvents key state⟩
  | .pointer e => s.sendTouch (s.handlePointer e).2.1
  | .touch e => s.sendTouch (s.handleTouch e).2.1

/-! What is wanted. -/

/-- Each capability that is announced has its listener, and there are no two listeners or devices of one
kind. -/
structure Wired (s : State) : Prop where
  once : ∀ c, s.listeners c ≤ 1
  announced : ∀ c : Capability, c.isIn s.announced → s.listeners c = 1
  devices : (s.devices.map Device.name).Nodup

/-- Nothing is sent to a device that is not there, and a key goes to the keyboard once. -/
structure Forwards (s : State) (a : Action) : Prop where
  created : ∀ x ∈ sends s a, x.device.isSome = true
  key : ∀ key value, (a = .key key 1 ∧ value = 1 ∨ a = .key key 0 ∧ value = 0) →
    ∃ d, s.devices[d]? = some ⟨"anbox-keyboard"⟩ ∧ sends s a = [⟨some d, [.EV_KEY key value]⟩]

def Keeps (s : State) (a : Action) : Prop := ∀ t, step s a = some t → Wired t ∧ Forwards s a

/-- The finger whose slot a handler looks for. -/
def PointerEvent.finger : PointerEvent → Option Int
  | .Motion _ _ => some 0
  | .Button button state =>
    if button = BTN_LEFT then some (if state = WL_POINTER_BUTTON_STATE_PRESSED then -1 else 0)
    else none
  | .Enter _ _ | .Leave | .Axis _ _ => none

def TouchEvent.finger : TouchEvent → Option Int
  | .Down _ _ _ _ => some (-1)
  | .Up id => some id
  | .Motion id _ _ => some id
  | .Frame | .Cancel => none

/-- The condition on a step: capabilities are announced that have no listener yet, the devices are
created once, and before that no key comes and no finger's slot is found. -/
def Proper (s : State) : Action → Prop
  | .capabilities capabilities _ => ∀ c : Capability, c.isIn capabilities → s.listeners c = 0
  | .workspaceInfo => s.devices = []
  | .key _ _ => s.devices ≠ []
  | .pointer e => s.devices = [] → s.pointers ≠ [] →
      ∀ finger, e.finger = some finger → s.input.findTouchSlot finger = none
  | .touch e => s.devices = [] → s.touches ≠ [] →
      ∀ finger, e.finger = some finger → s.input.findTouchSlot finger = none

/-- There are no devices, or those of one call. -/
structure Inv (s : State) : Prop where
  wired : Wired s
  made : s.devices = [] ∧ s.keyboard_ = none ∧ s.touch_ = none ∨
    s.devices = [⟨"anbox-pointer"⟩, ⟨"anbox-keyboard"⟩, ⟨"anbox-touch"⟩] ∧
      s.keyboard_ = some 1 ∧ s.touch_ = some 2

variable {s t : State} {a : Action}

/-! What is pushed. -/

theorem pushFingerDown_nil (s : AnboxInput) (x y id : Int) :
    (s.pushFingerDown x y id).1 = [] ↔ s.findTouchSlot (-1) = none := by
  unfold AnboxInput.pushFingerDown
  cases s.findTouchSlot (-1) <;> simp

theorem pushFingerUp_nil (s : AnboxInput) (id : Int) :
    (s.pushFingerUp id).1 = [] ↔ s.findTouchSlot id = none := by
  unfold AnboxInput.pushFingerUp
  cases s.findTouchSlot id <;> simp

theorem pushFingerMotion_nil (s : AnboxInput) (x y id : Int) :
    (s.pushFingerMotion x y id).1 = [] ↔ s.findTouchSlot id = none := by
  unfold AnboxInput.pushFingerMotion
  cases s.findTouchSlot id <;> simp

theorem pointer_pushes_nil (p : WaylandPointer) (s : AnboxInput) (e : PointerEvent) :
    (p.handle s e).2.1 = [] ↔
      ∀ finger, e.finger = some finger → s.findTouchSlot finger = none := by
  cases e with
  | Enter | Leave | Axis => simp [WaylandPointer.handle, PointerEvent.finger]
  | Motion x y =>
    simp only [WaylandPointer.handle, PointerEvent.finger, pushFingerMotion_nil]
    simp
  | Button button state =>
    simp only [WaylandPointer.handle, WaylandPointer.Button, PointerEvent.finger]
    by_cases left : button = BTN_LEFT
    · by_cases pressed : state = WL_POINTER_BUTTON_STATE_PRESSED
      · simp [left, pressed, pushFingerDown_nil]
      · simp [left, pressed, pushFingerUp_nil]
    · simp [left]

theorem touch_pushes_nil (p : WaylandTouch) (s : AnboxInput) (e : TouchEvent) :
    (p.handle s e).2.1 = [] ↔
      ∀ finger, e.finger = some finger → s.findTouchSlot finger = none := by
  cases e with
  | Frame | Cancel => simp [WaylandTouch.handle, TouchEvent.finger]
  | Down rect id x y => simp [WaylandTouch.handle, TouchEvent.finger, pushFingerDown_nil]
  | Up id => simp [WaylandTouch.handle, TouchEvent.finger, pushFingerUp_nil]
  | Motion id x y => simp [WaylandTouch.handle, TouchEvent.finger, pushFingerMotion_nil]

/-! What is sent. -/

section

variable {l ε : Type} {handle : Handler l ε} {e : ε} {ps : List l}

theorem length_dispatch (handle : Handler l ε) (e : ε) (ps : List l) (i : AnboxInput) :
    (dispatch handle e ps i).1.length = ps.length := by
  induction ps generalizing i with
  | nil => rfl
  | cons p ps ih => exact congrArg Nat.succ (ih _)

/-- The one listener there is sends nothing to a device that is not there, unless it pushes events. -/
theorem created_iff (one : ps.length ≤ 1) {silent : Prop}
    (pushes : ∀ p, (handle p s.input e).2.1 = [] ↔ silent) :
    (∀ x ∈ s.sendTouch (dispatch handle e ps s.input).2.1, x.device.isSome = true) ↔
      (s.touch_ = none → ps ≠ [] → silent) := by
  match ps with
  | [] => simp [dispatch, State.sendTouch]
  | [p] =>
    rw [← pushes p]
    cases pushed : (handle p s.input e).2.1 with
    | nil => simp [dispatch, State.sendTouch, pushed]
    | cons event events => cases device : s.touch_ <;> simp [dispatch, State.sendTouch, pushed, device]
  | p :: q :: ps =>
    rw [List.length_cons, List.length_cons] at one
    omega

end

theorem Inv.no_devices (I : Inv s) :
    (s.devices = [] ↔ s.touch_ = none) ∧ (s.devices = [] ↔ s.keyboard_ = none) := by
  cases I.made with
  | inl none => simp [none]
  | inr made => simp [made]

theorem forwards_iff (other : ∀ key state, a ≠ .key key state) :
    Forwards s a ↔ ∀ x ∈ sends s a, x.device.isSome = true := by
  refine ⟨Forwards.created, fun created => ⟨created, ?_⟩⟩
  intro key value case
  cases case with
  | inl pressed => exact absurd pressed.1 (other key 1)
  | inr released => exact absurd released.1 (other key 0)

theorem Inv.forwards_pointer (I : Inv s) (e : PointerEvent) :
    Forwards s (.pointer e) ↔ Proper s (.pointer e) := by
  rw [forwards_iff (fun _ _ same => by cases same), Proper, I.no_devices.1]
  exact created_iff (I.wired.once .pointer) fun p => pointer_pushes_nil p s.input e

theorem Inv.forwards_touch (I : Inv s) (e : TouchEvent) :
    Forwards s (.touch e) ↔ Proper s (.touch e) := by
  rw [forwards_iff (fun _ _ same => by cases same), Proper, I.no_devices.1]
  exact created_iff (I.wired.once .touch) fun p => touch_pushes_nil p s.input e

theorem Inv.forwards_key (I : Inv s) (some_ : 0 < s.keyboards) (key state : Nat) :
    Forwards s (.key key state) ↔ Proper s (.key key state) := by
  have one : s.keyboards = 1 := Nat.le_antisymm (I.wired.once .keyboard) some_
  have sent : sends s (.key key state) = [⟨s.keyboard_, keyboardEvents key state⟩] := by
    rw [sends, one]
    rfl
  constructor
  · intro forwards none
    rw [I.no_devices.2] at none
    have there := forwards.created ⟨s.keyboard_, keyboardEvents key state⟩ (by simp [sent])
    rw [none] at there
    cases there
  · intro proper
    obtain ⟨devices, keyboard, -⟩ := I.made.resolve_left fun none => proper none.1
    rw [keyboard] at sent
    refine ⟨?_, ?_⟩
    · intro x hx
      rw [sent, List.mem_singleton] at hx
      rw [hx]
      rfl
    · intro key' value case
      refine ⟨1, by rw [devices]; rfl, ?_⟩
      rw [sent]
      cases case with
      | inl pressed =>
        obtain ⟨same, rfl⟩ := pressed
        cases same
        rfl
      | inr released =>
        obtain ⟨same, rfl⟩ := released
        cases same
        rfl

/-! What is set up. -/

theorem listeners_seatCapabilities (s : State) (capabilities : BitVec 32) (unset : WaylandTouch)
    (c : Capability) : (s.seatCapabilities capabilities unset).listeners c =
      s.listeners c + if c.isIn capabilities then 1 else 0 := by
  cases c <;>
    · simp only [State.listeners, State.seatCapabilities]
      split_ifs <;> simp

theorem Wired.seatCapabilities_iff (W : Wired s) (capabilities : BitVec 32) (unset : WaylandTouch) :
    Wired (s.seatCapabilities capabilities unset) ↔
      ∀ c : Capability, c.isIn capabilities → s.listeners c = 0 := by
  constructor
  · intro W' c announced
    have once := W'.once c
    rw [listeners_seatCapabilities, if_pos announced] at once
    omega
  · intro new
    refine ⟨?_, ?_, W.devices⟩
    · intro c
      rw [listeners_seatCapabilities]
      split_ifs with announced
      · rw [new c announced]
      · exact W.once c
    · intro c announced
      change c.isIn capabilities at announced
      rw [listeners_seatCapabilities, new c announced, if_pos announced]

/-- Handlers make no listeners and no devices. -/
theorem Wired.congr (W : Wired s) (listeners : ∀ c, t.listeners c = s.listeners c)
    (announced : t.announced = s.announced) (devices : t.devices = s.devices) : Wired t where
  once := fun c => listeners c ▸ W.once c
  announced := fun c there => (listeners c).trans (W.announced c (announced ▸ there))
  devices := devices ▸ W.devices

theorem Inv.createDevices_iff (I : Inv s) : Wired s.createDevices ↔ s.devices = [] := by
  constructor
  · intro W
    cases I.made with
    | inl none => exact none.1
    | inr made =>
      have twice := W.devices
      rw [State.createDevices, made.1] at twice
      dsimp only at twice
      exact absurd twice (by decide)
  · intro none
    refine ⟨I.wired.once, I.wired.announced, ?_⟩
    rw [State.createDevices, none]
    dsimp only
    decide

theorem wired_pointer (W : Wired s) (e : PointerEvent) :
    Wired { s with pointers := (s.handlePointer e).1, input := (s.handlePointer e).2.2 } := by
  refine W.congr ?_ rfl rfl
  intro c
  cases c with
  | pointer => exact length_dispatch _ _ _ _
  | keyboard | touch => rfl

theorem wired_touch (W : Wired s) (e : TouchEvent) :
    Wired { s with touches := (s.handleTouch e).1, input := (s.handleTouch e).2.2 } := by
  refine W.congr ?_ rfl rfl
  intro c
  cases c with
  | touch => exact length_dispatch _ _ _ _
  | keyboard | pointer => rfl

/-! Steps. -/

theorem init_inv (touchSlots : Fin MAX_FINGERS → Int) : Inv (init touchSlots) where
  wired := by
    refine ⟨?_, ?_, List.nodup_nil⟩
    · intro c
      cases c <;> exact Nat.zero_le 1
    · intro c announced
      exact absurd (BitVec.zero_and ..) announced
  made := Or.inl ⟨rfl, rfl, rfl⟩

theorem step_wired_iff (I : Inv s) (h : step s a = some t) :
    Proper s a ↔ Wired t ∧ Forwards s a := by
  cases a with
  | capabilities capabilities unset =>
    obtain rfl := Option.some.inj h
    rw [I.wired.seatCapabilities_iff, forwards_iff (fun _ _ same => by cases same)]
    exact (and_iff_left (List.forall_mem_nil _)).symm
  | workspaceInfo =>
    obtain rfl := Option.some.inj h
    rw [I.createDevices_iff, forwards_iff (fun _ _ same => by cases same)]
    exact (and_iff_left (List.forall_mem_nil _)).symm
  | key key state =>
    obtain ⟨some_, same⟩ := Option.ite_none_right_eq_some.mp h
    obtain rfl := Option.some.inj same
    rw [← I.forwards_key some_, and_iff_right I.wired]
  | pointer e =>
    obtain rfl := Option.some.inj h
    rw [← I.forwards_pointer, and_iff_right (wired_pointer I.wired e)]
  | touch e =>
    obtain rfl := Option.some.inj h
    rw [← I.forwards_touch, and_iff_right (wired_touch I.wired e)]

theorem step_inv (s : State) (a : Action) (t : State) (I : Inv s) (proper : Proper s a)
    (h : step s a = some t) : Inv t := by
  refine ⟨((step_wired_iff I h).mp proper).1, ?_⟩
  cases a with
  | capabilities capabilities unset => exact Option.some.inj h ▸ I.made
  | workspaceInfo =>
    obtain rfl := Option.some.inj h
    have none : s.devices = [] := proper
    exact Or.inr (by simp [State.createDevices, none])
  | key key state =>
    obtain ⟨-, same⟩ := Option.ite_none_right_eq_some.mp h
    exact Option.some.inj same ▸ I.made
  | pointer e => exact Option.some.inj h ▸ I.made
  | touch e => exact Option.some.inj h ▸ I.made

/-- Input is wired once, and events are forwarded once and to devices that are there, exactly in the
runs whose steps are all proper. -/
theorem wired_once_iff (touchSlots : Fin MAX_FINGERS → Int) (as : List Action) :
    Wired (init touchSlots) ∧ Along step Keeps (init touchSlots) as ↔
      Along step Proper (init touchSlots) as := by
  have start := init_inv touchSlots
  rw [and_iff_right start.wired]
  refine (along_iff step_inv ?_ as start).symm
  intro s a t I h
  rw [step_wired_iff I h]
  constructor
  · intro keeps u hu
    exact Option.some.inj (h.symm.trans hu) ▸ keeps
  · exact fun keeps => keeps t h

/-- The seat announces its keyboard, and then the keyboard and a pointer. -/
def announcedTwice : List Action := [.capabilities 2 ⟨0, 0⟩, .capabilities 3 ⟨0, 0⟩]

theorem two_keyboards : ¬ ∀ (touchSlots : Fin MAX_FINGERS → Int) (as : List Action),
    Wired (init touchSlots) ∧ Along step Keeps (init touchSlots) as := by
  intro h
  have keeps := (h (fun _ => 0) announcedTwice).2
  obtain ⟨-, rest⟩ := keeps _ rfl
  have wired := ((rest _ rfl).1 _ rfl).1
  exact absurd (wired.once .keyboard) (by decide)

end Anbox.Fydeos.SeatInput
