import Mathlib.Logic.Function.Basic

namespace Anbox.Framework.MultiTouch

/-! The slot protocol of multitouch devices (type B). -/

inductive InputEvent (σ : Type*) where
  | ABS_MT_SLOT (slot : σ)
  | ABS_MT_TRACKING_ID (value : Int)
  | ABS_MT_POSITION_X (value : Int)
  | ABS_MT_POSITION_Y (value : Int)
  | SYN_REPORT
  deriving DecidableEq

/-- A slot without a contact has a negative tracking id. -/
structure Slot where
  trackingId : Int
  x : Int
  y : Int
  deriving DecidableEq

def Slot.active (s : Slot) : Prop := 0 ≤ s.trackingId

instance (s : Slot) : Decidable s.active := inferInstanceAs (Decidable (0 ≤ s.trackingId))

def Slot.lifted (s : Slot) : Slot := { s with trackingId := -1 }

def Slot.moved (s : Slot) (x y : Int) : Slot := { s with x, y }

/-- `slot` is the slot events are for, `reported` what the slots were at the last report. -/
structure Device (σ : Type*) where
  slot : σ
  slots : σ → Slot
  reported : σ → Slot

namespace Device

variable {σ : Type*} [DecidableEq σ]

def change (d : Device σ) (f : Slot → Slot) : Device σ :=
  { d with slots := Function.update d.slots d.slot (f (d.slots d.slot)) }

def receive (d : Device σ) : InputEvent σ → Device σ
  | .ABS_MT_SLOT slot => { d with slot }
  | .ABS_MT_TRACKING_ID trackingId => d.change fun s => { s with trackingId }
  | .ABS_MT_POSITION_X x => d.change fun s => { s with x }
  | .ABS_MT_POSITION_Y y => d.change fun s => { s with y }
  | .SYN_REPORT => { d with reported := d.slots }

def replay (d : Device σ) (events : List (InputEvent σ)) : Device σ := events.foldl receive d

/-- The device behind a report of what a slot has become. -/
def report (d : Device σ) (i : σ) (s : Slot) : Device σ where
  slot := i
  slots := Function.update d.slots i s
  reported := Function.update d.slots i s

theorem replay_append (d : Device σ) (es fs : List (InputEvent σ)) :
    d.replay (es ++ fs) = (d.replay es).replay fs :=
  List.foldl_append

theorem change_change (d : Device σ) (f g : Slot → Slot) :
    (d.change f).change g = d.change (g ∘ f) := by
  simp [change]

theorem replay_begins (d : Device σ) (trackingId x y : Int) :
    d.replay [.ABS_MT_TRACKING_ID trackingId, .ABS_MT_POSITION_X x, .ABS_MT_POSITION_Y y,
      .SYN_REPORT] = d.report d.slot ⟨trackingId, x, y⟩ := by
  simp only [replay, List.foldl_cons, List.foldl_nil, receive, change_change]
  rfl

theorem replay_moves (d : Device σ) (x y : Int) :
    d.replay [.ABS_MT_POSITION_X x, .ABS_MT_POSITION_Y y, .SYN_REPORT] =
      d.report d.slot ((d.slots d.slot).moved x y) := by
  simp only [replay, List.foldl_cons, List.foldl_nil, receive, change_change]
  rfl

theorem replay_lifts (d : Device σ) :
    d.replay [.ABS_MT_TRACKING_ID (-1), .SYN_REPORT] = d.report d.slot (d.slots d.slot).lifted := by
  simp only [replay, List.foldl_cons, List.foldl_nil, receive]
  rfl

@[simp] theorem report_slot (d : Device σ) (i : σ) (s : Slot) : (d.report i s).slot = i := rfl

@[simp] theorem report_self (d : Device σ) (i : σ) (s : Slot) : (d.report i s).slots i = s :=
  Function.update_self _ _ _

theorem report_other {d : Device σ} {i j : σ} (h : j ≠ i) (s : Slot) :
    (d.report i s).slots j = d.slots j :=
  Function.update_of_ne h _ _

end Device

end Anbox.Framework.MultiTouch
