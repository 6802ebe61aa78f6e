import Anbox.Container.LxcContainer
import Anbox.Framework.Run

namespace Anbox.Container

open Anbox.Framework

namespace LxcContainer

/-! What the calls do to the recorded state. -/

variable {setup : Setup} {s t : LxcContainer} {a : Attempt}

/-- A call has the recorded state and the `lxc_container` as they were. -/
structure Keeps (s t : LxcContainer) : Prop where
  state_ : t.state_ = s.state_
  container_ : s.container_.isSome = true → t.container_.isSome = true

theorem Keeps.trans {u : LxcContainer} (h : Keeps s t) (h' : Keeps t u) : Keeps s u where
  state_ := h'.state_.trans h.state_
  container_ := fun some => h'.container_ (h.container_ some)

theorem stopContainer_keeps (s : LxcContainer) (stopped : Bool) :
    Keeps s (s.stopContainer stopped) := by
  unfold stopContainer
  split_ifs <;> exact ⟨rfl, id⟩

theorem setItems_keeps (s : LxcContainer) (items : List Item) : Keeps s (s.setItems items) where
  state_ := rfl
  container_ := by
    intro some
    rwa [setItems, Option.isSome_map]

/-- A start that succeeds is recorded, and one that raises is not. -/
inductive Started (s : LxcContainer) : Except LxcContainer LxcContainer → Prop where
  | running {t : LxcContainer} (state_ : t.state_ = .running) (some : t.container_.isSome = true) :
      Started s (.ok t)
  | raised {t : LxcContainer} (keeps : Keeps s t) : Started s (.error t)

/-- The call keeps the recorded state, and leaves an `lxc_container` behind when it returns. -/
inductive Prepared (s : LxcContainer) : Except LxcContainer LxcContainer → Prop where
  | created {t : LxcContainer} (keeps : Keeps s t) (some : t.container_.isSome = true) :
      Prepared s (.ok t)
  | raised {t : LxcContainer} (keeps : Keeps s t) : Prepared s (.error t)

theorem create_cases (s : LxcContainer) (a : Attempt) : Prepared s (s.create a) := by
  unfold create
  split
  · rename_i c there
    exact .created ⟨rfl, id⟩ (by rw [there]; rfl)
  · split_ifs
    · exact .raised ⟨rfl, id⟩
    · have made : Keeps s { s with container_ := some .empty } := ⟨rfl, fun _ => rfl⟩
      have stopped := stopContainer_keeps { s with container_ := some .empty } a.stopped
      exact .created (made.trans stopped) (stopped.container_ rfl)

theorem prepare_cases (s : LxcContainer) (a : Attempt) : Prepared s (s.prepare a) := by
  have stopped := stopContainer_keeps s a.stopped
  unfold prepare
  split_ifs
  · exact .raised ⟨rfl, id⟩
  · have made := create_cases (s.stopContainer a.stopped) a
    generalize (s.stopContainer a.stopped).create a = r at made ⊢
    cases made with
    | created keeps some => exact .created (stopped.trans keeps) some
    | raised keeps => exact .raised (stopped.trans keeps)

theorem start_cases (setup : Setup) (s : LxcContainer) (a : Attempt) : Started s (s.start setup a) := by
  have prepared := prepare_cases s a
  unfold start
  generalize s.prepare a = r at prepared ⊢
  cases prepared with
  | raised keeps => exact .raised keeps
  | created keeps some =>
    rename_i t
    change Started s ((t.configure setup a).bind fun s => s.launch a)
    unfold configure
    cases a.configured with
    | some n => exact .raised (keeps.trans (setItems_keeps t _))
    | none =>
      have set := setItems_keeps t (setup.items a.host a.configuration)
      change Started s (launch _ a)
      unfold launch
      split_ifs
      · exact .raised (keeps.trans set)
      · exact .raised (keeps.trans set)
      · exact .running rfl (set.container_ some)

end LxcContainer

end Anbox.Container

namespace Anbox.Container.ManagementApiSkeleton

open Anbox.Framework

/-- What a request is answered with. -/
inductive Response where
  | done
  | alreadyRunning
  | failedToStart
  | notRunning
  | failedToStop
  deriving DecidableEq

/-- `started` says that a start has succeeded, and that no stop has returned normally since. -/
structure State where
  container_ : LxcContainer
  started : Bool

def init (running : Bool) : State := { container_ := .init running, started := false }

inductive Action where
  | startContainer (a : Attempt)
  | stopContainer (stopped : Bool)
  | die

def startContainer (setup : Setup) (s : State) (a : Attempt) : Response × State :=
  if s.container_.state_ = .running then (.alreadyRunning, s)
  else
    match s.container_.start setup a with
    | .ok t => (.done, { container_ := t, started := true })
    | .error t => (.failedToStart, { s with container_ := t })

def stopContainer (s : State) (stopped : Bool) : Response × State :=
  if s.container_.state_ ≠ .running then (.notRunning, s)
  else
    match s.container_.stop stopped with
    | .ok t => (.done, { container_ := t, started := false })
    | .error t => (.failedToStop, { s with container_ := t })

/-- The container can die by itself at any time. -/
def step (setup : Setup) (s : State) : Action → Option State
  | .startContainer a => some (startContainer setup s a).2
  | .stopContainer stopped => some (stopContainer s stopped).2
  | .die => some { s with container_ := { s.container_ with running := false } }

/-- The recorded state follows the starts and stops: behind a stop that has returned it is inactive
and a start is not refused, and it is running behind a start that has succeeded only. -/
structure Tracks (setup : Setup) (s : State) : Prop where
  inactive : s.started = false → s.container_.state_ = .inactive
  attempted : s.started = false → ∀ a, (startContainer setup s a).1 ≠ .alreadyRunning
  running : s.container_.state_ = .running → s.started = true

/-- A container that is recorded as running is stopped while it does run. -/
def StopsRunning (s : State) : Action → Prop
  | .stopContainer _ => s.container_.state_ = .running → s.container_.running = true
  | .startContainer _ | .die => True

/-- The recorded state is that of the starts and stops, and what is running has an
`lxc_container`. -/
structure Recorded (s : State) : Prop where
  iff : s.container_.state_ = .running ↔ s.started = true
  created : s.container_.state_ = .running → s.container_.container_.isSome = true

theorem Recorded.tracks {s : State} (setup : Setup) (h : Recorded s) : Tracks setup s where
  inactive := by
    intro stopped
    cases state_ : s.container_.state_ with
    | inactive => rfl
    | running =>
      rw [h.iff.mp state_] at stopped
      cases stopped
  attempted := by
    intro stopped a
    have idle : s.container_.state_ ≠ .running := by
      rw [Ne, h.iff, stopped]
      exact Bool.false_ne_true
    rw [startContainer, if_neg idle]
    cases s.container_.start setup a <;> simp
  running := h.iff.mp

theorem Recorded.startContainer {setup : Setup} {s : State} (h : Recorded s) (a : Attempt) :
    Recorded (startContainer setup s a).2 := by
  unfold ManagementApiSkeleton.startContainer
  split_ifs with running
  · exact h
  · have cases := LxcContainer.start_cases setup s.container_ a
    cases started : s.container_.start setup a with
    | ok t =>
      rw [started] at cases
      cases cases with
      | running state_ some => exact ⟨iff_of_true state_ rfl, fun _ => some⟩
    | error t =>
      rw [started] at cases
      cases cases with
      | raised keeps =>
        have idle : t.state_ ≠ .running := keeps.state_ ▸ running
        exact ⟨iff_of_false idle (mt h.iff.mpr running), fun state_ => absurd state_ idle⟩

/-- A stop is recorded when the container is stopped while it runs. -/
theorem Recorded.stopContainer {s : State} (h : Recorded s) {stopped : Bool}
    (runs : s.container_.state_ = .running → s.container_.running = true) :
    Recorded (stopContainer s stopped).2 := by
  unfold ManagementApiSkeleton.stopContainer
  split_ifs with idle
  · exact h
  · have running := not_not.mp idle
    have isRunning : s.container_.isRunning = true := by
      rw [LxcContainer.isRunning, h.created running, runs running]
      rfl
    cases stopped with
    | false =>
      rw [LxcContainer.stop, if_neg (by simp [isRunning]), if_pos rfl]
      exact ⟨h.iff, h.created⟩
    | true =>
      rw [LxcContainer.stop, if_neg (by simp [isRunning]), if_neg (by simp)]
      exact ⟨by simp, by simp⟩

theorem step_recorded {setup : Setup} {s t : State} {a : Action} (h : Recorded s)
    (stops : StopsRunning s a) (ht : step setup s a = some t) : Recorded t := by
  cases a with
  | startContainer a => exact Option.some.inj ht ▸ h.startContainer a
  | stopContainer stopped => exact Option.some.inj ht ▸ h.stopContainer stops
  | die => exact Option.some.inj ht ▸ ⟨h.iff, h.created⟩

/-- A stop of a container that is gone returns, and leaves it recorded as running. -/
theorem stops_running {setup : Setup} {s t : State} {a : Action} (ht : step setup s a = some t)
    (tracks : Tracks setup t) : StopsRunning s a := by
  cases a with
  | startContainer a => trivial
  | die => trivial
  | stopContainer stopped =>
    intro running
    by_contra gone
    have returned : s.container_.isRunning = false := by
      rw [LxcContainer.isRunning, Bool.eq_false_iff.mpr gone, Bool.and_false]
    have same : t = { s with started := false } := by
      obtain rfl := Option.some.inj ht
      rw [stopContainer, if_neg (not_not.mpr running), LxcContainer.stop, if_pos returned]
    rw [same] at tracks
    exact absurd (tracks.running running) Bool.false_ne_true

/-- The recorded state tracks the container exactly in the runs in which it is stopped only while
it runs. -/
theorem tracks_iff (setup : Setup) (running : Bool) (as : List Action) :
    Always (step setup) (Tracks setup) (init running) as ↔
      Along (step setup) StopsRunning (init running) as := by
  apply always_iff_along (I := Recorded)
  · exact fun _ h => h.tracks setup
  · exact fun _ _ _ => step_recorded
  · exact fun _ _ _ _ => stops_running
  · exact ⟨by simp [init, LxcContainer.init], by simp [init, LxcContainer.init]⟩

/-- The container is started, dies, and is stopped. -/
def startedAndGone : List Action :=
  [.startContainer (.succeeds ⟨[], [], []⟩ .plain), .die, .stopContainer true]

theorem recorded_as_running : ¬ ∀ setup running as,
    Always (step setup) (Tracks setup) (init running) as := by
  intro h
  obtain ⟨s, hs⟩ : ∃ s, run (step .plain) (init false) startedAndGone = some s := ⟨_, rfl⟩
  have tracks := (h .plain false startedAndGone).last hs
  obtain rfl := Option.some.inj hs
  exact absurd (tracks.inactive rfl) (by decide)

end Anbox.Container.ManagementApiSkeleton
