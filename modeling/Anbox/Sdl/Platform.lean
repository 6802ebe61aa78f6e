import Anbox.Wm.MultiWindowManager

namespace Anbox.Sdl

open Anbox.Framework
open Anbox.Graphics (Rect)
open Anbox.Bridge.AndroidApiStub (Outcome)

abbrev Window.Id := Int

/-- The id is the platform's own, `windowId` the one SDL gave. -/
structure Window extends Wm.Window where
  id_ : Window.Id
  windowId : Nat
  deriving DecidableEq

def Window.updateFrame (w : Window) (frame : Rect) : Window :=
  if frame = w.frame_ then w else { w with frame_ := frame }

/-- A weak pointer: the number of the object it was made for. -/
abbrev WeakPtr := Nat

/-- The platform, and the window objects that others still hold. -/
structure Platform where
  windows_ : AList fun _ : Window.Id => WeakPtr
  focusedSdlWindowId_ : Nat
  nextId : Window.Id
  objects : WeakPtr → Option Window
  made : WeakPtr

/-- What SDL tells of a window. -/
inductive WindowEvent where
  | FOCUS_GAINED
  | FOCUS_LOST
  | SIZE_CHANGED (data1 data2 : Int)
  | MOVED (data1 data2 : Int)
  | SHOWN
  | HIDDEN
  | CLOSE
  | other
  deriving DecidableEq

/-- Each event stands with how the request to the guest ends that it may cause. Between the events
windows come and go through other threads. -/
inductive Step where
  | windowEvent (windowID : Nat) (event : WindowEvent) (rpc : Outcome)
  | closeButton (p : WeakPtr) (rpc : Outcome)
  | createWindow (task : Wm.Task.Id) (frame : Rect) (title : String) (windowId : Nat)
  | drop (p : WeakPtr)

namespace Platform

def lock (s : Platform) (p : WeakPtr) : Option Window := s.objects p

def store (s : Platform) (p : WeakPtr) (w : Window) : Platform :=
  { s with objects := Function.update s.objects p (some w) }

/-- The call into the window manager: what is not returned from is raised. -/
def request (s : Platform) (rpc : Outcome) : Except Platform Platform :=
  if rpc = .returned then .ok s else .error s

def windowDeleted (s : Platform) (id : Window.Id) (rpc : Outcome) : Except Platform Platform :=
  match s.windows_.lookup id with
  | none => .ok s
  | some p =>
    match s.lock p with
    | none => .ok { s with windows_ := s.windows_.erase id }
    | some _ => (s.request rpc).map fun s => { s with windows_ := s.windows_.erase id }

def windowWantsFocus (s : Platform) (id : Window.Id) (rpc : Outcome) : Except Platform Platform :=
  match (s.windows_.lookup id).bind s.lock with
  | none => .ok s
  | some window => { s with focusedSdlWindowId_ := window.windowId }.request rpc

/-- The frame is updated before the task is resized. -/
def resize (s : Platform) (id : Window.Id) (newFrame : Rect → Rect) (rpc : Outcome) :
    Except Platform Platform :=
  match s.windows_.lookup id with
  | none => .ok s
  | some p =>
    match s.lock p with
    | none => .ok s
    | some window => (s.store p (window.updateFrame (newFrame window.frame_))).request rpc

def windowMoved (s : Platform) (id : Window.Id) (x y : Int) (rpc : Outcome) :
    Except Platform Platform :=
  s.resize id (fun frame => frame.translate x y) rpc

def windowResized (s : Platform) (id : Window.Id) (width height : Int) (rpc : Outcome) :
    Except Platform Platform :=
  s.resize id (fun frame => frame.resize width height) rpc

def close (s : Platform) (w : Window) (rpc : Outcome) : Except Platform Platform :=
  s.windowDeleted w.id_ rpc

/-- A closed window is deleted twice; the second time it is not known any more. -/
def processEvent (s : Platform) (w : Window) (event : WindowEvent) (rpc : Outcome) :
    Except Platform Platform :=
  match event with
  | .FOCUS_GAINED => s.windowWantsFocus w.id_ rpc
  | .SIZE_CHANGED data1 data2 => s.windowResized w.id_ data1 data2 rpc
  | .MOVED data1 data2 => s.windowMoved w.id_ data1 data2 rpc
  | .CLOSE => (s.windowDeleted w.id_ rpc).bind fun s => s.close w rpc
  | .FOCUS_LOST | .SHOWN | .HIDDEN | .other => .ok s

/-- The window an event is for, looked for in the order of the ids. -/
def window (s : Platform) (windowID : Nat) : Option Window :=
  (s.windows_.entries.mergeSort fun a b => a.1 ≤ b.1).findSome? fun e =>
    (s.lock e.2).filter fun w => w.windowId = windowID

def createWindow (s : Platform) (task : Wm.Task.Id) (frame : Rect) (title : String)
    (windowId : Nat) : Platform where
  windows_ := s.windows_.insert s.nextId s.made
  focusedSdlWindowId_ := windowId
  nextId := s.nextId + 1
  objects := Function.update s.objects s.made
    (some ⟨⟨task, frame, title, false⟩, s.nextId, windowId⟩)
  made := s.made + 1

/-- A pass of the loop in `process_events`, or what other threads do between two of them. -/
def step (s : Platform) : Step → Except Platform Platform
  | .windowEvent windowID event rpc =>
    match s.window windowID with
    | none => .ok s
    | some w => s.processEvent w event rpc
  | .closeButton p rpc =>
    match s.lock p with
    | none => .ok s
    | some w => s.close w rpc
  | .createWindow task frame title windowId => .ok (s.createWindow task frame title windowId)
  | .drop p => .ok { s with objects := Function.update s.objects p none }

end Platform

namespace Platform

/-! What the handlers make of the end of a request. -/

/-- A handler that makes a request when `asks` says so raises what the request raises, and what it
does otherwise is the same for all ends. -/
structure Forwards (handler : Outcome → Except Platform Platform) (asks : Bool) : Prop where
  returned : ∃ t, handler .returned = .ok t
  quiet : asks = false → ∀ rpc, handler rpc = handler .returned
  raises : asks = true → ∀ rpc, rpc ≠ .returned → ∃ t, handler rpc = .error t

/-- The id leads to a window that is still there. -/
def knows (s : Platform) (id : Window.Id) : Bool := ((s.windows_.lookup id).bind s.lock).isSome

theorem Forwards.ok (s : Platform) : Forwards (fun _ => .ok s) false where
  returned := ⟨s, rfl⟩
  quiet := fun _ _ => rfl
  raises := by simp

theorem Forwards.request (s : Platform) : Forwards s.request true where
  returned := ⟨s, rfl⟩
  quiet := by simp
  raises := fun _ rpc loud => ⟨s, if_neg loud⟩

theorem Forwards.map {handler : Outcome → Except Platform Platform} {asks : Bool}
    (h : Forwards handler asks) (f : Platform → Platform) :
    Forwards (fun rpc => (handler rpc).map f) asks where
  returned := by
    obtain ⟨t, ht⟩ := h.returned
    exact ⟨f t, congrArg (Except.map f) ht⟩
  quiet := fun silent rpc => congrArg (Except.map f) (h.quiet silent rpc)
  raises := by
    intro asked rpc loud
    obtain ⟨t, ht⟩ := h.raises asked rpc loud
    exact ⟨t, congrArg (Except.map f) ht⟩

theorem Forwards.ok_iff {handler : Outcome → Except Platform Platform} {asks : Bool}
    (h : Forwards handler asks) (rpc : Outcome) :
    (∃ t, handler rpc = .ok t) ↔ (asks = true → rpc = .returned) := by
  constructor
  · rintro ⟨t, ht⟩ asked
    by_contra loud
    obtain ⟨u, hu⟩ := h.raises asked rpc loud
    rw [hu] at ht
    cases ht
  · intro quiet
    by_cases returned : rpc = .returned
    · exact returned ▸ h.returned
    · have silent : asks = false := by simpa [returned] using quiet
      rw [h.quiet silent rpc]
      exact h.returned

theorem Forwards.same {handler : Outcome → Except Platform Platform} {asks : Bool}
    (h : Forwards handler asks) {rpc : Outcome} {t : Platform} (ht : handler rpc = .ok t) :
    handler .returned = .ok t := by
  cases hasks : asks with
  | false => rwa [← h.quiet hasks rpc]
  | true => rwa [(h.ok_iff rpc).mp ⟨t, ht⟩ hasks] at ht

theorem windowDeleted_forwards (s : Platform) (id : Window.Id) :
    Forwards (s.windowDeleted id) (s.knows id) := by
  unfold windowDeleted knows
  cases s.windows_.lookup id with
  | none => exact .ok s
  | some p =>
    simp only [Option.bind_some]
    cases s.lock p with
    | none => exact .ok _
    | some w => exact (Forwards.request s).map _

theorem windowWantsFocus_forwards (s : Platform) (id : Window.Id) :
    Forwards (s.windowWantsFocus id) (s.knows id) := by
  unfold windowWantsFocus knows
  cases (s.windows_.lookup id).bind s.lock with
  | none => exact .ok s
  | some w => exact .request _

theorem resize_forwards (s : Platform) (id : Window.Id) (newFrame : Rect → Rect) :
    Forwards (s.resize id newFrame) (s.knows id) := by
  unfold resize knows
  cases s.windows_.lookup id with
  | none => exact .ok s
  | some p =>
    simp only [Option.bind_some]
    cases s.lock p with
    | none => exact .ok s
    | some w => exact .request _

/-- A window that was deleted is not known any more. -/
theorem windowDeleted_unknown {s t : Platform} {id : Window.Id} {rpc : Outcome}
    (h : s.windowDeleted id rpc = .ok t) : t.windows_.lookup id = none := by
  unfold windowDeleted at h
  split at h
  · rename_i none
    rwa [← Except.ok.inj h]
  · split at h
    · rw [← Except.ok.inj h]
      exact AList.lookup_erase _ _
    · unfold request at h
      split_ifs at h with returned
      · rw [← Except.ok.inj h]
        exact AList.lookup_erase _ _
      · cases h

theorem close_forwards (s : Platform) (w : Window) :
    Forwards (fun rpc => (s.windowDeleted w.id_ rpc).bind fun s => s.close w rpc)
      (s.knows w.id_) := by
  have once : (fun rpc => (s.windowDeleted w.id_ rpc).bind fun s => s.close w rpc) =
      s.windowDeleted w.id_ := by
    funext rpc
    cases h : s.windowDeleted w.id_ rpc with
    | error t => rfl
    | ok t =>
      change t.windowDeleted w.id_ rpc = .ok t
      rw [windowDeleted, windowDeleted_unknown h]
  rw [once]
  exact windowDeleted_forwards s w.id_

/-- The events that are told to the guest. -/
def told : WindowEvent → Bool
  | .FOCUS_GAINED | .SIZE_CHANGED _ _ | .MOVED _ _ | .CLOSE => true
  | .FOCUS_LOST | .SHOWN | .HIDDEN | .other => false

theorem processEvent_forwards (s : Platform) (w : Window) (event : WindowEvent) :
    Forwards (s.processEvent w event) (told event && s.knows w.id_) := by
  cases event with
  | FOCUS_GAINED => exact windowWantsFocus_forwards s w.id_
  | SIZE_CHANGED data1 data2 => exact resize_forwards s w.id_ fun frame => frame.resize data1 data2
  | MOVED data1 data2 => exact resize_forwards s w.id_ fun frame => frame.translate data1 data2
  | CLOSE => exact close_forwards s w
  | FOCUS_LOST => exact .ok s
  | SHOWN => exact .ok s
  | HIDDEN => exact .ok s
  | other => exact .ok s

/-- The step makes a request to the guest. -/
def calls (s : Platform) : Step → Bool
  | .windowEvent windowID event _ => (s.window windowID).any fun w => told event && s.knows w.id_
  | .closeButton p _ => (s.lock p).any fun w => s.knows w.id_
  | .createWindow .. | .drop _ => false

end Platform

def Step.rpc : Step → Outcome
  | .windowEvent _ _ rpc | .closeButton _ rpc => rpc
  | .createWindow .. | .drop _ => .returned

/-- The same step with a request that ends so. -/
def Step.ending (rpc : Outcome) : Step → Step
  | .windowEvent windowID event _ => .windowEvent windowID event rpc
  | .closeButton p _ => .closeButton p rpc
  | .createWindow task frame title windowId => .createWindow task frame title windowId
  | .drop p => .drop p

@[simp] theorem Step.ending_rpc (e : Step) : e.ending e.rpc = e := by
  cases e <;> rfl

namespace Platform

theorem step_forwards (s : Platform) (e : Step) :
    Forwards (fun rpc => s.step (e.ending rpc)) (s.calls e) := by
  cases e with
  | windowEvent windowID event rpc =>
    simp only [Step.ending, step, calls]
    cases s.window windowID with
    | none => exact .ok s
    | some w => exact processEvent_forwards s w event
  | closeButton p rpc =>
    simp only [Step.ending, step, calls]
    cases s.lock p with
    | none => exact .ok s
    | some w => exact windowDeleted_forwards s w.id_
  | createWindow task frame title windowId => exact .ok _
  | drop p => exact .ok _

theorem step_ok_iff (s : Platform) (e : Step) :
    (∃ t, s.step e = .ok t) ↔ (s.calls e = true → e.rpc = .returned) := by
  have h := (step_forwards s e).ok_iff e.rpc
  rwa [Step.ending_rpc] at h

theorem step_same {s t : Platform} {e : Step} (h : s.step e = .ok t) :
    s.step (e.ending .returned) = .ok t := by
  have again : s.step (e.ending e.rpc) = .ok t := by rwa [Step.ending_rpc]
  exact (step_forwards s e).same again

/-- No exception leaves `process_events`, and after each event everything is as it is when all
requests return. -/
def Survives (s : Platform) (es : List Step) : Prop :=
  ∀ before after, es = before ++ after → ∃ t, before.foldlM step s = .ok t ∧
    (before.map (Step.ending .returned)).foldlM step s = .ok t

/-- The event thread survives exactly the sequences in which every request that is made returns. -/
theorem event_thread_survives_iff (s : Platform) (es : List Step) : Survives s es ↔
    ∀ before e after t, es = before ++ e :: after → before.foldlM step s = .ok t →
      t.calls e = true → e.rpc = .returned := by
  constructor
  · intro survives before e after t cut ht
    obtain ⟨u, hu, -⟩ := survives (before ++ [e]) after (by simpa using cut)
    have pass := foldlM_ok_iff.mp ⟨u, hu⟩ before e [] t rfl ht
    exact (step_ok_iff t e).mp pass
  · intro returned before after cut
    have passes : ∃ t, before.foldlM step s = .ok t := by
      apply foldlM_ok_iff.mpr
      intro first e rest t middle ht
      apply (step_ok_iff t e).mpr
      apply returned first e (rest ++ after) t _ ht
      rw [cut, middle, List.append_assoc, List.cons_append]
    obtain ⟨t, ht⟩ := passes
    exact ⟨t, ht, foldlM_map_ok (fun _ _ _ => step_same) ht⟩

/-- One window, which the guest does not hear of. -/
def oneWindow : Platform :=
  createWindow ⟨∅, 0, 0, fun _ => none, 0⟩ 1 ⟨0, 0, 640, 480⟩ "org.example" 5

theorem oneWindow_found : oneWindow.window 5 =
    some ⟨⟨1, ⟨0, 0, 640, 480⟩, "org.example", false⟩, 0, 5⟩ := by
  have entries : oneWindow.windows_.entries = [⟨0, 0⟩] := rfl
  rw [window, entries, List.mergeSort_singleton]
  rfl

/-- A window is moved while no guest is connected. -/
def move : Step := .windowEvent 5 (.MOVED 10 10) .notConnected

theorem move_not_connected : ¬ ∀ s es, Survives s es := by
  intro h
  have calls : oneWindow.calls move = true := by
    rw [move, Platform.calls, oneWindow_found]
    rfl
  obtain ⟨t, ht, -⟩ := h oneWindow [move] [move] [] rfl
  obtain ⟨u, hu, -⟩ := foldlM_cons_ok ht
  have returned := (step_ok_iff oneWindow _).mp ⟨u, hu⟩ calls
  cases returned

end Platform

end Anbox.Sdl
