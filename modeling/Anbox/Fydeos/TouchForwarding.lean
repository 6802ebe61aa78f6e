import Anbox.Framework.Run
import Anbox.Framework.Table
import Anbox.Fydeos.AnboxInput
import Mathlib.Algebra.Ring.Int.Defs
import Mathlib.Data.Fintype.Card

namespace Anbox.Fydeos.TouchForwarding

open Anbox.Framework
open Anbox.Framework.MultiTouch
open Anbox.Graphics (Rect)

/-- Wayland's fixed-point numbers, in 256ths. -/
abbrev wlFixed := Int

/-- A whole number and a fixed-point one are added, and the sum is truncated to an int. -/
def addFixed (origin : Int) (x : wlFixed) : Int := (origin * 256 + x).tdiv 256

/-- `SetPoint` keeps floats: of a number with more than 24 digits the first 24 are kept, rounded to
the nearest and at a tie to the even one. -/
def toFloat (x : wlFixed) : Int :=
  let unit : Int := 2 ^ (Nat.log2 x.natAbs - 23)
  let low := x / unit
  if 2 * (x % unit) < unit ∨ 2 * (x % unit) = unit ∧ low % 2 = 0 then low * unit
  else (low + 1) * unit

/-- What touches the screen: a contact of the touch device, or the pointer with its left button. -/
inductive Contact where
  | touch (id : Int)
  | pointer
  deriving DecidableEq

/-- The pointer is forwarded as the finger 0. -/
def Contact.fingerId : Contact → Int
  | .touch id => id
  | .pointer => 0

/-- Where a contact began, and its last position. -/
structure Placed (ω : Type*) where
  window : ω
  x : Int
  y : Int

/-- Where the pointer is: over a window, at a location relative to it. -/
structure Over (ω : Type*) where
  window : ω
  surfaceX : wlFixed
  surfaceY : wlFixed

/-- The windows, the variables of the input classes and the device that replays what they send.
Besides, there are the contacts as they are and, for each slot, the contact it was begun for. -/
structure State (ω : Type*) where
  windows : ω → Rect
  input : AnboxInput
  currentLeft_ : Int
  currentTop_ : Int
  location_ : Int × Int
  device : Device (Fin MAX_FINGERS)
  contacts : AList fun _ : Contact => Placed ω
  hover : Option (Over ω)
  owner : Fin MAX_FINGERS → Option Contact

def init {ω : Type*} (windows : ω → Rect) : State ω where
  windows := windows
  input := .init
  currentLeft_ := 0
  currentTop_ := 0
  location_ := (0, 0)
  device := ⟨0, fun _ => ⟨-1, 0, 0⟩, fun _ => ⟨-1, 0, 0⟩⟩
  contacts := ∅
  hover := none
  owner := fun _ => none

inductive Action (ω : Type*) where
  | boundsChanged (window : ω) (rect : Rect)
  | touchDown (id : Int) (window : ω) (x y : wlFixed)
  | touchUp (id : Int)
  | touchMotion (id : Int) (x y : wlFixed)
  | touchFrame
  | touchCancel
  | pointerEnter (window : ω) (surfaceX surfaceY : wlFixed)
  | pointerLeave
  | pointerMotion (surfaceX surfaceY : wlFixed)
  | buttonLeft (pressed : Bool)

/-- The contacts of the touch device. -/
def touches {ω : Type*} (contacts : AList fun _ : Contact => Placed ω) : List Contact :=
  contacts.keys.filter fun c => decide (c ≠ .pointer)

namespace State

variable {ω : Type*}

def send (s : State ω) (sent : List Event × AnboxInput) : State ω :=
  { s with input := sent.2, device := s.device.replay sent.1 }

/-- The contact is at its place, and what was sent for it is taken for its slot. -/
def begins (s : State ω) (c : Contact) (p : Placed ω) : State ω :=
  { s with
    contacts := s.contacts.insert c p
    owner := Function.update s.owner s.device.slot (some c) }

def moves (s : State ω) (c : Contact) (p : Placed ω) : State ω :=
  { s with contacts := s.contacts.insert c p }

def ends (s : State ω) (c : Contact) : State ω :=
  { s with
    contacts := s.contacts.erase c
    owner := fun i => if s.owner i = some c then none else s.owner i }

/-- A point over a window. -/
def place (s : State ω) (window : ω) (x y : wlFixed) : Placed ω :=
  ⟨window, addFixed (s.windows window).left_ x, addFixed (s.windows window).top_ y⟩

/-! The listeners. -/

def Down (s : State ω) (id : Int) (window : ω) (x y : wlFixed) : State ω :=
  let xx := addFixed (s.windows window).left_ x
  let yy := addFixed (s.windows window).top_ y
  { s with
    currentLeft_ := (s.windows window).left_
    currentTop_ := (s.windows window).top_ }.send (s.input.pushFingerDown xx yy id)

def Up (s : State ω) (id : Int) : State ω := s.send (s.input.pushFingerUp id)

def Motion (s : State ω) (id : Int) (x y : wlFixed) : State ω :=
  s.send (s.input.pushFingerMotion (addFixed s.currentLeft_ x) (addFixed s.currentTop_ y) id)

def Frame (s : State ω) : State ω := s

def Cancel (s : State ω) : State ω := s

def Enter (s : State ω) (surfaceX surfaceY : wlFixed) : State ω :=
  { s with location_ := (toFloat surfaceX, toFloat surfaceY) }

/-- `current_window_location_` is never set. -/
def PointerMotion (s : State ω) (surfaceX surfaceY : wlFixed) : State ω :=
  s.send (s.input.pushFingerMotion (addFixed 0 surfaceX) (addFixed 0 surfaceY) 0)

def Button (s : State ω) (pressed : Bool) : State ω :=
  if pressed then
    s.send (s.input.pushFingerDown (s.location_.1.tdiv 256) (s.location_.2.tdiv 256) 0)
  else s.send (s.input.pushFingerUp 0)

end State

variable {ω : Type*} [DecidableEq ω]

/-- The runs are those of a compositor: contacts begin when they are not there, and move and end when
they are, and there are no more than ten on the touch device. A pointer that is pressed stays with
its window. -/
def step (s : State ω) : Action ω → Option (State ω)
  | .boundsChanged window rect =>
    some { s with windows := Function.update s.windows window rect }
  | .touchDown id window x y =>
    if 0 ≤ id ∧ Contact.touch id ∉ s.contacts ∧ (touches s.contacts).length < 10 then
      some ((s.Down id window x y).begins (.touch id) (s.place window x y))
    else none
  | .touchUp id =>
    if Contact.touch id ∈ s.contacts then some ((s.Up id).ends (.touch id)) else none
  | .touchMotion id x y =>
    match s.contacts.lookup (.touch id) with
    | some p => some ((s.Motion id x y).moves (.touch id) (s.place p.window x y))
    | none => none
  | .touchFrame => some s.Frame
  | .touchCancel => some ((touches s.contacts).foldl State.ends s.Cancel)
  | .pointerEnter window surfaceX surfaceY =>
    match s.hover with
    | none => some { s.Enter surfaceX surfaceY with hover := some ⟨window, surfaceX, surfaceY⟩ }
    | some _ => none
  | .pointerLeave =>
    if s.hover.isSome = true ∧ Contact.pointer ∉ s.contacts then some { s with hover := none } else none
  | .pointerMotion surfaceX surfaceY =>
    match s.hover with
    | none => none
    | some o =>
      let t := { s.PointerMotion surfaceX surfaceY with
        hover := some { o with surfaceX, surfaceY } }
      if Contact.pointer ∈ s.contacts then some (t.moves .pointer (s.place o.window surfaceX surfaceY))
      else some t
  | .buttonLeft true =>
    match s.hover with
    | none => none
    | some o =>
      if Contact.pointer ∈ s.contacts then none
      else some ((s.Button true).begins .pointer (s.place o.window o.surfaceX o.surfaceY))
  | .buttonLeft false =>
    if Contact.pointer ∈ s.contacts then some ((s.Button false).ends .pointer) else none

/-- What the last report shows are the contacts at their last positions, each in the slot that was
begun for it and under a tracking id of its own. -/
structure Forwards (s : State ω) : Prop where
  shown : ∀ i c, s.owner i = some c → (s.device.reported i).active ∧
    ∃ p, s.contacts.lookup c = some p ∧
      (s.device.reported i).x = p.x ∧ (s.device.reported i).y = p.y
  inactive : ∀ i, s.owner i = none → ¬ (s.device.reported i).active
  one_slot : ∀ c, c ∈ s.contacts → ∃! i, s.owner i = some c
  distinct : ∀ i j, (s.device.reported i).active → (s.device.reported j).active →
    (s.device.reported i).trackingId = (s.device.reported j).trackingId → i = j

/-- A contact may begin: there is room for it, and no other one has an id of the same last digit. -/
def Begins (s : State ω) (c : Contact) : Prop :=
  s.contacts.keys.length < 10 ∧ ∀ d ∈ s.contacts.keys, d.fingerId % 10 ≠ c.fingerId % 10

/-- The positions that are sent are those of the contacts, contacts begin with ids of their own, and
nothing is cancelled. -/
def Regular (s : State ω) : Action ω → Prop
  | .touchDown id _ _ _ => Begins s (.touch id)
  | .touchMotion id x y => ∀ p, s.contacts.lookup (.touch id) = some p →
      addFixed s.currentLeft_ x = (s.place p.window x y).x ∧
        addFixed s.currentTop_ y = (s.place p.window x y).y
  | .touchCancel => touches s.contacts = []
  | .pointerMotion surfaceX surfaceY => ∀ o, s.hover = some o →
      if Contact.pointer ∈ s.contacts then
        addFixed 0 surfaceX = (s.place o.window surfaceX surfaceY).x ∧
          addFixed 0 surfaceY = (s.place o.window surfaceX surfaceY).y
      else Contact.touch 0 ∉ s.contacts
  | .buttonLeft true => Begins s .pointer ∧ ∀ o, s.hover = some o →
      s.location_.1.tdiv 256 = (s.place o.window o.surfaceX o.surfaceY).x ∧
        s.location_.2.tdiv 256 = (s.place o.window o.surfaceX o.surfaceY).y
  | .boundsChanged _ _ | .touchUp _ | .touchFrame | .pointerEnter _ _ _ | .pointerLeave
  | .buttonLeft false => True

/-! The table of slots holds what the replayed device shows. -/

section

variable {ω : Type*}

/-- A slot that is owned holds its contact, another one is free on both sides, and the contacts have
ids that differ in the last digit. -/
structure Replays (s : State ω) : Prop where
  owned : ∀ i c, s.owner i = some c → s.input.touchSlots i = c.fingerId ∧
    ∃ p, s.contacts.lookup c = some p ∧
      s.device.slots i = ⟨c.fingerId.tmod MAX_TRACKING_ID + 1, p.x, p.y⟩
  free : ∀ i, s.owner i = none → s.input.touchSlots i = -1 ∧ ¬ (s.device.slots i).active
  one_slot : ∀ c, c ∈ s.contacts → ∃! i, s.owner i = some c
  nonneg : ∀ c, c ∈ s.contacts → 0 ≤ c.fingerId
  apart : ∀ c d, c ∈ s.contacts → d ∈ s.contacts → c.fingerId % 10 = d.fingerId % 10 → c = d
  at_last : ∀ i, s.input.lastSlot = some i → s.device.slot = i
  reported : s.device.reported = s.device.slots

/-- Nothing else of the state matters. -/
theorem Replays.congr {s t : State ω} (h : Replays s) (input : t.input = s.input)
    (device : t.device = s.device) (contacts : t.contacts = s.contacts) (owner : t.owner = s.owner) :
    Replays t := by
  constructor
  · rw [input, device, contacts, owner]
    exact h.owned
  · rw [input, device, owner]
    exact h.free
  · rw [contacts, owner]
    exact h.one_slot
  · rw [contacts]
    exact h.nonneg
  · rw [contacts]
    exact h.apart
  · rw [input, device]
    exact h.at_last
  · rw [device]
    exact h.reported

theorem init_replays (windows : ω → Rect) : Replays (init windows) where
  owned := fun _ _ h => by cases h
  free := fun _ _ => ⟨rfl, by simp [init, Slot.active]⟩
  one_slot := fun _ h => absurd h (by simp [init])
  nonneg := fun _ h => absurd h (by simp [init])
  apart := fun _ _ h => absurd h (by simp [init])
  at_last := fun _ h => by cases h
  reported := rfl

theorem Replays.mem_of_owner {s : State ω} (h : Replays s) {i : Fin MAX_FINGERS} {c : Contact}
    (owner : s.owner i = some c) : c ∈ s.contacts := by
  obtain ⟨-, p, hp, -⟩ := h.owned i c owner
  exact AList.lookup_isSome.mp (by rw [hp]; rfl)

theorem Replays.owner_of_free {s : State ω} (h : Replays s) {i : Fin MAX_FINGERS}
    (free : s.input.touchSlots i = -1) : s.owner i = none := by
  cases owner : s.owner i with
  | none => rfl
  | some c =>
    have id := (h.owned i c owner).1
    have nonneg := h.nonneg c (h.mem_of_owner owner)
    omega

/-- A contact is found in its own slot. -/
theorem Replays.found {s : State ω} (h : Replays s) {c : Contact} (hc : c ∈ s.contacts) :
    ∃ i, s.owner i = some c ∧ (∀ j, s.owner j = some c → j = i) ∧
      s.input.findTouchSlot c.fingerId = some i := by
  obtain ⟨i, own, unique⟩ := h.one_slot c hc
  refine ⟨i, own, unique, ?_⟩
  apply AnboxInput.findTouchSlot_eq (h.owned i c own).1
  intro j hj
  cases owner : s.owner j with
  | none =>
    have free := (h.free j owner).1
    have nonneg := h.nonneg c hc
    omega
  | some d =>
    have id := (h.owned j d owner).1
    have same : d = c := h.apart d c (h.mem_of_owner owner) hc (by rw [← id, hj])
    exact unique j (same ▸ owner)

/-- Fewer than ten contacts leave a slot free. -/
theorem Replays.free_slot {s : State ω} (h : Replays s) (room : s.contacts.keys.length < 10) :
    ∃ i, s.input.findTouchSlot (-1) = some i := by
  cases find : s.input.findTouchSlot (-1) with
  | some i => exact ⟨i, rfl⟩
  | none =>
    have taken (i : Fin MAX_FINGERS) : ∃ c, s.owner i = some c := by
      apply Option.ne_none_iff_exists'.mp
      intro owner
      exact AnboxInput.findTouchSlot_none find i (h.free i owner).1
    choose c hc using taken
    have injective : Function.Injective c := by
      intro i j same
      obtain ⟨k, -, unique⟩ := h.one_slot (c i) (h.mem_of_owner (hc i))
      exact (unique i (hc i)).trans (unique j (same ▸ hc j)).symm
    have covers : Finset.univ.image c ⊆ s.contacts.keys.toFinset := by
      intro d hd
      obtain ⟨i, -, rfl⟩ := Finset.mem_image.mp hd
      exact List.mem_toFinset.mpr (h.mem_of_owner (hc i))
    have ten : 10 ≤ s.contacts.keys.toFinset.card := by
      have card := Finset.card_le_card covers
      rwa [Finset.card_image_of_injective _ injective, Finset.card_fin] at card
    have short := List.toFinset_card_le s.contacts.keys
    omega

/-- A call has reported on the slot `i`, and left the others as they were. -/
structure Changes (s t : State ω) (i : Fin MAX_FINGERS) (id : Int) (slot : Slot) : Prop where
  input : t.input = { s.input.setSlot i id with lastSlot := some i }
  device : t.device = s.device.report i slot
  owner : ∀ j, j ≠ i → t.owner j = s.owner j
  kept : ∀ j d, j ≠ i → s.owner j = some d → t.contacts.lookup d = s.contacts.lookup d

theorem Changes.owned {s t : State ω} {i : Fin MAX_FINGERS} {id : Int} {slot : Slot}
    (ch : Changes s t i id slot) (h : Replays s)
    (own : ∀ c, t.owner i = some c → id = c.fingerId ∧ ∃ p, t.contacts.lookup c = some p ∧
      slot = ⟨c.fingerId.tmod MAX_TRACKING_ID + 1, p.x, p.y⟩) :
    ∀ j c, t.owner j = some c → t.input.touchSlots j = c.fingerId ∧
      ∃ p, t.contacts.lookup c = some p ∧
        t.device.slots j = ⟨c.fingerId.tmod MAX_TRACKING_ID + 1, p.x, p.y⟩ := by
  intro j c owner
  rw [ch.input, ch.device]
  by_cases hj : j = i
  · subst hj
    rw [Device.report_self]
    obtain ⟨rfl, p, hp, slot⟩ := own c owner
    exact ⟨Function.update_self _ _ _, p, hp, slot⟩
  · rw [Device.report_other hj]
    rw [ch.owner j hj] at owner
    obtain ⟨id, p, hp, slot⟩ := h.owned j c owner
    exact ⟨(Function.update_of_ne hj _ _).trans id, p, (ch.kept j c hj owner).trans hp, slot⟩

theorem Changes.free {s t : State ω} {i : Fin MAX_FINGERS} {id : Int} {slot : Slot}
    (ch : Changes s t i id slot) (h : Replays s)
    (free : t.owner i = none → id = -1 ∧ ¬ slot.active) :
    ∀ j, t.owner j = none → t.input.touchSlots j = -1 ∧ ¬ (t.device.slots j).active := by
  intro j owner
  rw [ch.input, ch.device]
  by_cases hj : j = i
  · subst hj
    rw [Device.report_self]
    exact ⟨(Function.update_self _ _ _).trans (free owner).1, (free owner).2⟩
  · rw [Device.report_other hj]
    rw [ch.owner j hj] at owner
    exact ⟨(Function.update_of_ne hj _ _).trans (h.free j owner).1, (h.free j owner).2⟩

theorem Changes.at_last {s t : State ω} {i : Fin MAX_FINGERS} {id : Int} {slot : Slot}
    (ch : Changes s t i id slot) : ∀ j, t.input.lastSlot = some j → t.device.slot = j := by
  intro j last
  rw [ch.input] at last
  rw [ch.device]
  exact Option.some.inj last

theorem Changes.reported {s t : State ω} {i : Fin MAX_FINGERS} {id : Int} {slot : Slot}
    (ch : Changes s t i id slot) : t.device.reported = t.device.slots := by
  rw [ch.device]
  rfl

/-- A contact that is in the slot neither before nor behind it is in the slot it was in. -/
theorem Changes.one_slot {s t : State ω} {i : Fin MAX_FINGERS} {id : Int} {slot : Slot}
    (ch : Changes s t i id slot) {d : Contact} (before : s.owner i ≠ some d)
    (after : t.owner i ≠ some d) (h : ∃! j, s.owner j = some d) : ∃! j, t.owner j = some d := by
  have same (j : Fin MAX_FINGERS) : t.owner j = some d ↔ s.owner j = some d := by
    by_cases hj : j = i
    · subst hj
      exact ⟨fun now => absurd now after, fun was => absurd was before⟩
    · rw [ch.owner j hj]
  exact (existsUnique_congr same).mpr h

theorem Replays.begins {s : State ω} (h : Replays s) {c : Contact} (new : c ∉ s.contacts)
    (nonneg : 0 ≤ c.fingerId) (begins : Begins s c) (p : Placed ω) :
    Replays ((s.send (s.input.pushFingerDown p.x p.y c.fingerId)).begins c p) := by
  obtain ⟨i, find⟩ := h.free_slot begins.1
  obtain ⟨input, device⟩ := AnboxInput.pushFingerDown_spec h.at_last find p.x p.y c.fingerId
  have none := h.owner_of_free (AnboxInput.findTouchSlot_some find)
  generalize ht : (s.send (s.input.pushFingerDown p.x p.y c.fingerId)).begins c p = t
  have contacts : t.contacts = s.contacts.insert c p := by rw [← ht]; rfl
  have owner : t.owner = Function.update s.owner i (some c) := by
    rw [← ht]
    change Function.update s.owner (s.device.replay _).slot (some c) = _
    rw [device, Device.report_slot]
  have other {j : Fin MAX_FINGERS} {d : Contact} (hd : s.owner j = some d) : d ≠ c := by
    rintro rfl
    exact new (h.mem_of_owner hd)
  have ch : Changes s t i c.fingerId ⟨c.fingerId.tmod MAX_TRACKING_ID + 1, p.x, p.y⟩ := by
    constructor
    · rw [← ht]
      exact input
    · rw [← ht]
      exact device
    · intro j hj
      rw [owner, Function.update_of_ne hj]
    · intro j d hj hd
      rw [contacts, AList.lookup_insert_ne (other hd)]
  have own : t.owner i = some c := by rw [owner, Function.update_self]
  constructor
  · apply ch.owned h
    intro d hd
    obtain rfl : c = d := Option.some.inj (own.symm.trans hd)
    exact ⟨rfl, p, by rw [contacts, AList.lookup_insert], rfl⟩
  · apply ch.free h
    intro free
    rw [own] at free
    cases free
  · intro d hd
    rw [contacts, AList.mem_insert] at hd
    by_cases hdc : d = c
    · subst hdc
      refine ⟨i, own, ?_⟩
      intro j hj
      by_contra hji
      rw [ch.owner j hji] at hj
      exact other hj rfl
    · have before : s.owner i ≠ some d := by simp [none]
      have after : t.owner i ≠ some d := by
        rw [own]
        exact fun same => hdc (Option.some.inj same).symm
      exact ch.one_slot before after (h.one_slot d (hd.resolve_left hdc))
  · intro d hd
    rw [contacts, AList.mem_insert] at hd
    cases hd with
    | inl hdc => rwa [hdc]
    | inr hd => exact h.nonneg d hd
  · intro d e hd he same
    rw [contacts, AList.mem_insert] at hd he
    cases hd with
    | inl hdc =>
      cases he with
      | inl hec => rw [hdc, hec]
      | inr he => exact absurd (hdc ▸ same).symm (begins.2 e he)
    | inr hd =>
      cases he with
      | inl hec => exact absurd (hec ▸ same) (begins.2 d hd)
      | inr he => exact h.apart d e hd he same
  · exact ch.at_last
  · exact ch.reported

/-- A contact that is there moves to another place. -/
theorem Replays.moves {s : State ω} (h : Replays s) {c : Contact} (hc : c ∈ s.contacts)
    (p : Placed ω) :
    Replays ((s.send (s.input.pushFingerMotion p.x p.y c.fingerId)).moves c p) := by
  obtain ⟨i, own, unique, find⟩ := h.found hc
  obtain ⟨id, q, hq, slot⟩ := h.owned i c own
  obtain ⟨input, device⟩ := AnboxInput.pushFingerMotion_spec h.at_last find p.x p.y
  generalize ht : (s.send (s.input.pushFingerMotion p.x p.y c.fingerId)).moves c p = t
  have contacts : t.contacts = s.contacts.insert c p := by rw [← ht]; rfl
  have owner : t.owner = s.owner := by rw [← ht]; rfl
  have mem (d : Contact) : d ∈ t.contacts ↔ d ∈ s.contacts := by
    rw [contacts, AList.mem_insert, or_iff_right_of_imp]
    rintro rfl
    exact hc
  have ch : Changes s t i c.fingerId ⟨c.fingerId.tmod MAX_TRACKING_ID + 1, p.x, p.y⟩ := by
    constructor
    · have same : s.input.setSlot i c.fingerId = s.input := by
        rw [← id, AnboxInput.setSlot, Function.update_eq_self]
      rw [← ht, same]
      exact input
    · rw [← ht]
      refine device.trans ?_
      rw [slot]
      rfl
    · intro j hj
      rw [owner]
    · intro j d hj hd
      have hdc : d ≠ c := by
        rintro rfl
        exact hj (unique j hd)
      rw [contacts, AList.lookup_insert_ne hdc]
  constructor
  · apply ch.owned h
    intro d hd
    rw [owner] at hd
    obtain rfl : c = d := Option.some.inj (own.symm.trans hd)
    exact ⟨rfl, p, by rw [contacts, AList.lookup_insert], rfl⟩
  · apply ch.free h
    intro free
    rw [owner, own] at free
    cases free
  · intro d hd
    rw [owner]
    exact h.one_slot d ((mem d).mp hd)
  · exact fun d hd => h.nonneg d ((mem d).mp hd)
  · exact fun d e hd he => h.apart d e ((mem d).mp hd) ((mem e).mp he)
  · exact ch.at_last
  · exact ch.reported

/-- A contact ends, and its slot is free again. -/
theorem Replays.ends {s : State ω} (h : Replays s) {c : Contact} (hc : c ∈ s.contacts) :
    Replays ((s.send (s.input.pushFingerUp c.fingerId)).ends c) := by
  obtain ⟨i, own, unique, find⟩ := h.found hc
  obtain ⟨input, device⟩ := AnboxInput.pushFingerUp_spec h.at_last find
  generalize ht : (s.send (s.input.pushFingerUp c.fingerId)).ends c = t
  have contacts : t.contacts = s.contacts.erase c := by rw [← ht]; rfl
  have owner (j : Fin MAX_FINGERS) : t.owner j = if s.owner j = some c then none else s.owner j := by
    rw [← ht]
    rfl
  have mem {d : Contact} (hd : d ∈ t.contacts) : d ≠ c ∧ d ∈ s.contacts := by
    rwa [contacts, AList.mem_erase] at hd
  have kept {j : Fin MAX_FINGERS} (hj : j ≠ i) : t.owner j = s.owner j := by
    rw [owner, if_neg fun hj' => hj (unique j hj')]
  have free : t.owner i = none := by rw [owner, if_pos own]
  have ch : Changes s t i (-1) (s.device.slots i).lifted := by
    constructor
    · rw [← ht]
      exact input
    · rw [← ht]
      exact device
    · exact fun j => kept
    · intro j d hj hd
      have hdc : d ≠ c := by
        rintro rfl
        exact hj (unique j hd)
      rw [contacts, AList.lookup_erase_ne hdc]
  constructor
  · apply ch.owned h
    intro d hd
    rw [free] at hd
    cases hd
  · apply ch.free h
    exact fun _ => ⟨rfl, by simp [Slot.active, Slot.lifted]⟩
  · intro d hd
    obtain ⟨hdc, hd⟩ := mem hd
    have before : s.owner i ≠ some d := by
      rw [own]
      exact fun same => hdc (Option.some.inj same).symm
    have after : t.owner i ≠ some d := by simp [free]
    exact ch.one_slot before after (h.one_slot d hd)
  · exact fun d hd => h.nonneg d (mem hd).2
  · exact fun d e hd he => h.apart d e (mem hd).2 (mem he).2
  · exact ch.at_last
  · exact ch.reported

/-- The motion of a finger that is in no slot is not sent. -/
theorem Replays.hover {s : State ω} (h : Replays s) {id : Int} (nonneg : 0 ≤ id)
    (none : ∀ c, c ∈ s.contacts → c.fingerId ≠ id) (x y : Int) :
    s.send (s.input.pushFingerMotion x y id) = s := by
  have absent : s.input.findTouchSlot id = .none := by
    cases find : s.input.findTouchSlot id with
    | none => rfl
    | some i =>
      have taken := AnboxInput.findTouchSlot_some find
      cases owner : s.owner i with
      | none =>
        have free := (h.free i owner).1
        omega
      | some c =>
        have own := (h.owned i c owner).1
        exact absurd (own.symm.trans taken) (none c (h.mem_of_owner owner))
  rw [AnboxInput.pushFingerMotion, absent]
  rfl

theorem Replays.tracking {s : State ω} (h : Replays s) {i : Fin MAX_FINGERS} {c : Contact}
    (owner : s.owner i = some c) :
    (s.device.reported i).trackingId = c.fingerId % 10 + 1 := by
  obtain ⟨-, p, -, slot⟩ := h.owned i c owner
  have nonneg := h.nonneg c (h.mem_of_owner owner)
  rw [h.reported, slot, Int.tmod_eq_emod_of_nonneg nonneg]
  rfl

theorem Replays.forwards {s : State ω} (h : Replays s) : Forwards s where
  shown := by
    intro i c owner
    constructor
    · rw [Slot.active, h.tracking owner]
      omega
    · obtain ⟨-, p, hp, slot⟩ := h.owned i c owner
      exact ⟨p, hp, by rw [h.reported, slot], by rw [h.reported, slot]⟩
  inactive := by
    intro i owner
    rw [h.reported]
    exact (h.free i owner).2
  one_slot := h.one_slot
  distinct := by
    have taken {i : Fin MAX_FINGERS} (active : (s.device.reported i).active) :
        ∃ c, s.owner i = some c := by
      apply Option.ne_none_iff_exists'.mp
      intro owner
      rw [h.reported] at active
      exact (h.free i owner).2 active
    intro i j hi hj same
    obtain ⟨c, hc⟩ := taken hi
    obtain ⟨d, hd⟩ := taken hj
    rw [h.tracking hc, h.tracking hd, Int.add_left_inj] at same
    have one : c = d := h.apart c d (h.mem_of_owner hc) (h.mem_of_owner hd) same
    obtain ⟨k, -, only⟩ := h.one_slot c (h.mem_of_owner hc)
    exact (only i hc).trans (only j (one ▸ hd)).symm

end

theorem step_replays {s t : State ω} {a : Action ω} (h : Replays s) (regular : Regular s a)
    (ht : step s a = some t) : Replays t := by
  cases a with
  | boundsChanged window rect => exact Option.some.inj ht ▸ h.congr rfl rfl rfl rfl
  | touchDown id window x y =>
    simp only [step] at ht
    split_ifs at ht with formed
    have placed : Replays { s with
        currentLeft_ := (s.windows window).left_
        currentTop_ := (s.windows window).top_ } := h.congr rfl rfl rfl rfl
    exact Option.some.inj ht ▸
      placed.begins formed.2.1 formed.1 regular (s.place window x y)
  | touchUp id =>
    simp only [step] at ht
    split_ifs at ht with there
    exact Option.some.inj ht ▸ h.ends there
  | touchMotion id x y =>
    simp only [step] at ht
    split at ht
    · rename_i p hp
      have there : Contact.touch id ∈ s.contacts := AList.lookup_isSome.mp (by rw [hp]; rfl)
      have place := regular p hp
      rw [← Option.some.inj ht, State.Motion, place.1, place.2]
      exact h.moves there (s.place p.window x y)
    · cases ht
  | touchFrame => exact Option.some.inj ht ▸ h
  | touchCancel =>
    have none : touches s.contacts = [] := regular
    simp only [step, none] at ht
    exact Option.some.inj ht ▸ h
  | pointerEnter window surfaceX surfaceY =>
    simp only [step] at ht
    split at ht
    · exact Option.some.inj ht ▸ h.congr rfl rfl rfl rfl
    · cases ht
  | pointerLeave =>
    simp only [step] at ht
    split_ifs at ht
    exact Option.some.inj ht ▸ h.congr rfl rfl rfl rfl
  | pointerMotion surfaceX surfaceY =>
    simp only [step] at ht
    split at ht
    · cases ht
    · rename_i o hover
      have place := regular o hover
      split_ifs at ht place with pressed
      · have moved := h.moves pressed (s.place o.window surfaceX surfaceY)
        rw [← Option.some.inj ht, State.PointerMotion, place.1, place.2]
        exact moved.congr rfl rfl rfl rfl
      · have hovers := h.hover (Int.le_refl 0)
          (fun c hc id => by
            cases c with
            | touch id' => exact place ((show id' = 0 from id) ▸ hc)
            | pointer => exact pressed hc)
          (addFixed 0 surfaceX) (addFixed 0 surfaceY)
        rw [← Option.some.inj ht, State.PointerMotion, hovers]
        exact h.congr rfl rfl rfl rfl
  | buttonLeft pressed =>
    cases pressed with
    | true =>
      simp only [step] at ht
      split at ht
      · cases ht
      · rename_i o hover
        split_ifs at ht with there
        have place := regular.2 o hover
        rw [← Option.some.inj ht, State.Button, if_pos rfl, place.1, place.2]
        exact h.begins there (Int.le_refl 0) regular.1 (s.place o.window o.surfaceX o.surfaceY)
    | false =>
      simp only [step] at ht
      split_ifs at ht with there
      exact Option.some.inj ht ▸ h.ends there

/-- In a regular run, the touch device shows the contacts as they are. -/
theorem touch_forwarded {windows : ω → Rect} {as : List (Action ω)}
    (regular : Along step Regular (init windows) as) : Always step Forwards (init windows) as := by
  have replays := always_of_along (fun _ _ _ => step_replays) (init_replays windows) regular
  exact replays.mono fun _ h => h.forwards

/-- A single window. -/
def single (_ : Unit) : Rect := ⟨100, 50, 740, 530⟩

theorem touch_forwarded_single : Always step Forwards (init single)
    [.touchDown 3 () 2560 2560, .touchMotion 3 5120 2560, .touchUp 3] := by
  apply touch_forwarded
  apply along_cons rfl
  · exact ⟨by decide, by decide⟩
  apply along_cons rfl
  · intro p hp
    obtain rfl := Option.some.inj hp
    exact ⟨rfl, rfl⟩
  exact along_cons rfl trivial trivial

/-- A touch that is cancelled stays on the device. -/
theorem cancelled_and_active : ¬ ∀ as : List (Action Unit), Always step Forwards (init single) as := by
  intro h
  obtain ⟨t, ht⟩ : ∃ t, run step (init single) [.touchDown 3 () 2560 2560, .touchCancel] = some t :=
    ⟨_, rfl⟩
  have forwards := (h _).last ht
  obtain rfl := Option.some.inj ht
  exact forwards.inactive 0 rfl (by decide)

end Anbox.Fydeos.TouchForwarding
