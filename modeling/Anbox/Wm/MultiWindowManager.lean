import Anbox.Bridge.AndroidApiStub
import Anbox.Framework.Fold
import Anbox.Framework.Table
import Anbox.Graphics.Rect

namespace Anbox.Wm

open Anbox.Framework
open Anbox.Graphics (Rect)
open Anbox.Bridge.AndroidApiStub (Outcome)

abbrev Task.Id := Int

/-- The ids the enumeration names, and those a message may carry besides. -/
inductive Stack.Id where
  | Invalid
  | Default
  | Fullscreen
  | Freeform
  | unnamed (id : Int)
  deriving DecidableEq

structure WindowState where
  hasSurface : Bool
  frame : Rect
  packageName : String
  task : Task.Id
  stack : Stack.Id
  deriving DecidableEq

/-- The window is part of the freeform stack and has a surface mapped. -/
def WindowState.shown (window : WindowState) : Bool :=
  decide (window.stack = .Freeform) && window.hasSurface

structure Window where
  task_ : Task.Id
  frame_ : Rect
  title_ : String
  attached_ : Bool
  deriving DecidableEq

namespace MultiWindowManager

/-- The map `windows_`: each window stands under its own task. -/
structure Windows where
  table : AList fun _ : Task.Id => Window
  task_eq : ∀ t w, table.lookup t = some w → w.task_ = t

namespace Windows

def empty : Windows where
  table := ∅
  task_eq := by
    intro t w h
    cases h

def find (ws : Windows) (t : Task.Id) : Option Window := ws.table.lookup t

def insert (ws : Windows) (w : Window) : Windows where
  table := ws.table.insert w.task_ w
  task_eq := by
    intro t v h
    by_cases ht : t = w.task_
    · subst ht
      rw [AList.lookup_insert] at h
      rw [← Option.some.inj h]
    · rw [AList.lookup_insert_ne ht] at h
      exact ws.task_eq t v h

def erase (ws : Windows) (t : Task.Id) : Windows where
  table := ws.table.erase t
  task_eq := by
    intro u v h
    by_cases hu : u = t
    · rw [hu, AList.lookup_erase] at h
      cases h
    · rw [AList.lookup_erase_ne hu] at h
      exact ws.task_eq u v h

@[simp] theorem find_insert (ws : Windows) (w : Window) : (ws.insert w).find w.task_ = some w :=
  AList.lookup_insert _

theorem find_insert_ne {ws : Windows} {w : Window} {t : Task.Id} (h : t ≠ w.task_) :
    (ws.insert w).find t = ws.find t :=
  AList.lookup_insert_ne h

@[simp] theorem find_erase (ws : Windows) (t : Task.Id) : (ws.erase t).find t = none :=
  AList.lookup_erase _ _

theorem find_erase_ne {ws : Windows} {t u : Task.Id} (h : u ≠ t) : (ws.erase t).find u = ws.find u :=
  AList.lookup_erase_ne h

/-- There is one window for each task that has any. -/
theorem oneWindow {ws : Windows} {t : Task.Id} (h : (ws.find t).isSome = true) :
    ∃! w, w ∈ values ws.table ∧ w.task_ = t := by
  obtain ⟨w, hw⟩ := Option.isSome_iff_exists.mp h
  refine ⟨w, ⟨mem_values.mpr ⟨t, hw⟩, ws.task_eq t w hw⟩, ?_⟩
  rintro v ⟨hv, rfl⟩
  obtain ⟨u, hu⟩ := mem_values.mp hv
  rw [ws.task_eq u v hu] at hw
  exact Option.some.inj (hu.symm.trans hw)

end Windows

/-- What `createWindow` comes to for an entry, if it is called for it; `noPlatform` is a platform
that is gone. -/
inductive Created where
  | noPlatform
  | window (attached : Bool)
  | null
  | raised
  deriving DecidableEq

/-- What an entry meets: the result of `createWindow`, and how `removeTask` ends behind a null. -/
structure Attempt where
  created : Created
  removal : Outcome
  deriving DecidableEq

/-- What is done to windows and asked of the guest. -/
inductive Effect where
  | attach (w : Window)
  | removeTask (t : Task.Id)
  | updateState (t : Task.Id) (states : List WindowState)
  | release (w : Window)
  deriving DecidableEq

/-- The variables of a call of `applyWindowStateUpdate`, and what it has done so far. -/
structure Update where
  windows_ : Windows
  taskUpdates : AList fun _ : Task.Id => List WindowState
  log : List Effect

namespace Update

def start (ws : Windows) : Update := { windows_ := ws, taskUpdates := ∅, log := [] }

def gather (u : Update) (window : WindowState) : Update :=
  match u.taskUpdates.lookup window.task with
  | none => { u with taskUpdates := u.taskUpdates.insert window.task [window] }
  | some ws => { u with taskUpdates := u.taskUpdates.insert window.task (ws ++ [window]) }

def attach (u : Update) (w : Window) : Update :=
  { u with windows_ := u.windows_.insert w, log := u.log ++ [.attach w] }

def removeTask (u : Update) (t : Task.Id) : Update := { u with log := u.log ++ [.removeTask t] }

/-- The name of the application the window belongs to, when the database knows that. -/
def title (findByPackage : String → Option String) (window : WindowState) : String :=
  (findByPackage window.packageName).getD window.packageName

def create (findByPackage : String → Option String) (u : Update) (window : WindowState)
    (attempt : Attempt) : Except Update Update :=
  match attempt.created with
  | .noPlatform => .ok u
  | .window attached =>
    .ok (u.attach ⟨window.task, window.frame, title findByPackage window, attached⟩)
  | .null =>
    if attempt.removal = .returned then .ok (u.removeTask window.task)
    else .error (u.removeTask window.task)
  | .raised => .error u

/-- The body of the first loop. -/
def collect (findByPackage : String → Option String) (u : Update) (e : WindowState × Attempt) :
    Except Update Update :=
  if e.1.stack ≠ .Freeform then .ok u
  else if !e.1.hasSurface then .ok u
  else
    match u.windows_.find e.1.task with
    | some _ => .ok (u.gather e.1)
    | none => u.create findByPackage e.1 e.2

/-- The body of the second loop. -/
def updateState (u : Update) (t : Task.Id) (states : List WindowState) : Update :=
  match u.windows_.find t with
  | none => u
  | some _ => { u with log := u.log ++ [.updateState t states] }

/-- The second loop, in the order of the tasks. -/
def updateStates (u : Update) : Update :=
  (u.taskUpdates.entries.mergeSort fun a b => a.1 ≤ b.1).foldl
    (fun u e => u.updateState e.1 e.2) u

/-- The body of the last loop. -/
def remove (u : Update) (window : WindowState) : Update :=
  match u.windows_.find window.task with
  | none => u
  | some w =>
    if (u.taskUpdates.lookup window.task).isNone then
      { u with windows_ := u.windows_.erase window.task, log := u.log ++ [.release w] }
    else u

end Update

/-- An exception leaves the windows as they are then. -/
def applyWindowStateUpdate (findByPackage : String → Option String) (ws : Windows)
    (updated : List (WindowState × Attempt)) (removed : List WindowState) : Except Update Update :=
  (updated.foldlM (Update.collect findByPackage) (.start ws)).map fun u =>
    removed.foldl Update.remove u.updateStates

/-! The first loop treats each task by itself. -/

/-- The attempts there would be for a task, one for each of its entries that is shown. -/
def attempts (updated : List (WindowState × Attempt)) (t : Task.Id) : List Attempt :=
  (updated.filter fun e => e.1.shown && decide (e.1.task = t)).map Prod.snd

/-- How far a task has come: it has a window, and updates of this window are collected. -/
structure Progress where
  window : Bool
  updated : Bool
  deriving DecidableEq

def Attempt.gives (a : Attempt) : Bool :=
  match a.created with
  | .window _ => true
  | _ => false

/-- The attempt raises nothing and gives no window. -/
def Attempt.quiet (a : Attempt) : Prop :=
  a.created = .noPlatform ∨ a.created = .null ∧ a.removal = .returned

instance (a : Attempt) : Decidable a.quiet :=
  inferInstanceAs (Decidable (_ ∨ _ ∧ _))

def Progress.next (p : Progress) (a : Attempt) : Progress :=
  if p.window then { p with updated := true } else { p with window := a.gives }

def Update.progress (u : Update) (t : Task.Id) : Progress :=
  { window := (u.windows_.find t).isSome, updated := (u.taskUpdates.lookup t).isSome }

theorem attempts_cons (e : WindowState × Attempt) (es : List (WindowState × Attempt)) (t : Task.Id) :
    attempts (e :: es) t =
      if e.1.shown = true ∧ e.1.task = t then e.2 :: attempts es t else attempts es t := by
  by_cases h : e.1.shown = true ∧ e.1.task = t
  · simp [attempts, h]
  · rw [if_neg h, attempts, List.filter_cons_of_neg (by simpa using h)]
    rfl

theorem attempts_eq_nil {es : List (WindowState × Attempt)} {t : Task.Id} :
    attempts es t = [] ↔ ∀ e ∈ es, e.1.shown = true → e.1.task ≠ t := by
  simp [attempts]

theorem Attempt.quiet.gives {a : Attempt} (h : a.quiet) : a.gives = false := by
  cases h with
  | inl created => simp [Attempt.gives, created]
  | inr null => simp [Attempt.gives, null.1]

theorem Attempt.quiet.next {a : Attempt} (h : a.quiet) {p : Progress} (none : p.window = false) :
    p.next a = p := by
  obtain ⟨window, updated⟩ := p
  obtain rfl : window = false := none
  rw [Progress.next, h.gives]
  rfl

/-- What a pass over an entry comes to. -/
inductive Collect (u : Update) (e : WindowState × Attempt) : Except Update Update → Prop where
  | hidden (hidden : e.1.shown = false) : Collect u e (.ok u)
  | gather {w : Window} (shown : e.1.shown = true) (hw : u.windows_.find e.1.task = some w) :
      Collect u e (.ok (u.gather e.1))
  | attach {w : Window} (shown : e.1.shown = true) (none : u.windows_.find e.1.task = none)
      (gives : e.2.gives = true) (task : w.task_ = e.1.task) : Collect u e (.ok (u.attach w))
  | quiet {v : Update} (shown : e.1.shown = true) (none : u.windows_.find e.1.task = none)
      (quiet : e.2.quiet) (same : v = u ∨ v = u.removeTask e.1.task) : Collect u e (.ok v)
  | raised {v : Update} (shown : e.1.shown = true) (none : u.windows_.find e.1.task = none)
      (loud : ¬ e.2.quiet) (gives : e.2.gives = false) : Collect u e (.error v)

theorem create_cases (findByPackage : String → Option String) {u : Update}
    {e : WindowState × Attempt} (shown : e.1.shown = true)
    (none : u.windows_.find e.1.task = none) :
    Collect u e (u.create findByPackage e.1 e.2) := by
  obtain ⟨window, created, removal⟩ := e
  cases created with
  | noPlatform => exact .quiet shown none (Or.inl rfl) (Or.inl rfl)
  | window attached => exact .attach shown none rfl rfl
  | null =>
    by_cases returned : removal = .returned
    · rw [Update.create, if_pos returned]
      exact .quiet shown none (Or.inr ⟨rfl, returned⟩) (Or.inr rfl)
    · rw [Update.create, if_neg returned]
      exact .raised shown none (by simp [Attempt.quiet, returned]) rfl
  | raised => exact .raised shown none (by simp [Attempt.quiet]) rfl

theorem collect_cases {findByPackage : String → Option String} {u : Update}
    {e : WindowState × Attempt} {r : Except Update Update}
    (h : u.collect findByPackage e = r) : Collect u e r := by
  unfold Update.collect at h
  split_ifs at h with stack surface
  · exact h ▸ .hidden (by simp [WindowState.shown, stack])
  · exact h ▸ .hidden (by simpa [WindowState.shown] using fun _ => surface)
  · have shown : e.1.shown = true := by
      rw [WindowState.shown, Bool.and_eq_true, decide_eq_true_eq]
      exact ⟨not_not.mp stack, by simpa using surface⟩
    split at h
    · rename_i w hw
      exact h ▸ .gather shown hw
    · rename_i none
      exact h ▸ create_cases findByPackage shown none

namespace Update

theorem gather_windows (u : Update) (window : WindowState) :
    (u.gather window).windows_ = u.windows_ := by
  unfold gather
  split <;> rfl

theorem gather_progress (u : Update) (window : WindowState) (t : Task.Id) :
    (u.gather window).progress t =
      if window.task = t then { u.progress t with updated := true } else u.progress t := by
  have windows := gather_windows u window
  have updates : ((u.gather window).taskUpdates.lookup t).isSome =
      if window.task = t then true else (u.taskUpdates.lookup t).isSome := by
    unfold gather
    split
    all_goals
      by_cases ht : window.task = t
      · subst ht
        simp
      · simp [AList.lookup_insert_ne (Ne.symm ht), ht]
  simp only [progress, windows, updates]
  split_ifs <;> rfl

theorem attach_progress (u : Update) (w : Window) (t : Task.Id) : (u.attach w).progress t =
      if w.task_ = t then { u.progress t with window := true } else u.progress t := by
  by_cases ht : w.task_ = t
  · subst ht
    simp [progress, attach]
  · simp [progress, attach, ht, Windows.find_insert_ne (Ne.symm ht)]

end Update

variable {findByPackage : String → Option String}

/-- A pass over an entry takes its task a step on, and leaves the other tasks where they are. -/
theorem collect_progress {u v : Update} {e : WindowState × Attempt}
    (h : u.collect findByPackage e = .ok v) (t : Task.Id) : v.progress t =
      if e.1.shown = true ∧ e.1.task = t then (u.progress t).next e.2 else u.progress t := by
  have windowless (none : u.windows_.find e.1.task = none) (ht : e.1.task = t) :
      (u.progress t).window = false := by
    simp [Update.progress, ← ht, none]
  cases collect_cases h with
  | hidden hidden => simp [hidden]
  | gather shown hw =>
    rw [Update.gather_progress]
    by_cases ht : e.1.task = t
    · have window : (u.progress t).window = true := by simp [Update.progress, ← ht, hw]
      simp [ht, shown, Progress.next, window]
    · simp [ht]
  | attach shown none gives task =>
    rw [Update.attach_progress, task]
    by_cases ht : e.1.task = t
    · simp [ht, shown, Progress.next, windowless none ht, gives]
    · simp [ht]
  | quiet shown none quiet same =>
    have kept : v.progress t = u.progress t := by
      cases same with
      | inl same => rw [same]
      | inr same => rw [same]; rfl
    rw [kept]
    by_cases ht : e.1.task = t
    · rw [if_pos ⟨shown, ht⟩, quiet.next (windowless none ht)]
    · simp [ht]

theorem collected_progress {u v : Update} {es : List (WindowState × Attempt)}
    (h : es.foldlM (Update.collect findByPackage) u = .ok v) (t : Task.Id) :
    v.progress t = (attempts es t).foldl Progress.next (u.progress t) := by
  induction es generalizing u with
  | nil => exact Except.ok.inj h ▸ rfl
  | cons e es ih =>
    obtain ⟨w, hw, hv⟩ := foldlM_cons_ok h
    rw [ih hv, collect_progress hw, attempts_cons]
    split_ifs <;> rfl

/-- No attempt raises before one gives a window. -/
inductive Returns : List Attempt → Prop where
  | nil : Returns []
  | window {a : Attempt} (as : List Attempt) (gives : a.gives = true) : Returns (a :: as)
  | quiet {a : Attempt} {as : List Attempt} (quiet : a.quiet) (rest : Returns as) :
      Returns (a :: as)

theorem Returns.quiet_or_gives {a : Attempt} {as : List Attempt} (h : Returns (a :: as)) :
    a.gives = true ∨ a.quiet ∧ Returns as := by
  cases h with
  | window _ gives => exact Or.inl gives
  | quiet quiet rest => exact Or.inr ⟨quiet, rest⟩

/-- A pass ends normally unless an attempt it makes raises. -/
theorem collect_returns {u : Update} {e : WindowState × Attempt} {as : List Attempt}
    (h : e.1.shown = true → u.windows_.find e.1.task = none → Returns (e.2 :: as)) :
    ∃ v, u.collect findByPackage e = .ok v := by
  cases hr : u.collect findByPackage e with
  | ok v => exact ⟨v, rfl⟩
  | error v =>
    cases collect_cases hr with
    | raised shown none loud gives =>
      cases (h shown none).quiet_or_gives with
      | inl given => simp [gives] at given
      | inr quiet => exact absurd quiet.1 loud

theorem attempts_cons_other {e : WindowState × Attempt} {es : List (WindowState × Attempt)}
    {t : Task.Id} (h : ¬ (e.1.shown = true ∧ e.1.task = t)) : attempts (e :: es) t = attempts es t := by
  rw [attempts_cons, if_neg h]

theorem attempts_cons_self {e : WindowState × Attempt} {es : List (WindowState × Attempt)}
    (h : e.1.shown = true) : attempts (e :: es) e.1.task = e.2 :: attempts es e.1.task := by
  rw [attempts_cons, if_pos ⟨h, rfl⟩]

/-- A task without a window has none before either, and all but a quiet attempt lie ahead. -/
theorem collect_windowless {u v : Update} {e : WindowState × Attempt}
    (h : u.collect findByPackage e = .ok v) {es : List (WindowState × Attempt)} {t : Task.Id}
    (windowless : v.windows_.find t = none) :
    u.windows_.find t = none ∧ (Returns (attempts (e :: es) t) ↔ Returns (attempts es t)) := by
  cases collect_cases h with
  | hidden hidden =>
    refine ⟨windowless, ?_⟩
    rw [attempts_cons_other (by simp [hidden])]
  | gather shown hw =>
    rw [Update.gather_windows] at windowless
    refine ⟨windowless, ?_⟩
    rw [attempts_cons_other]
    rintro ⟨-, rfl⟩
    rw [hw] at windowless
    cases windowless
  | attach shown none gives task =>
    have other : t ≠ e.1.task := by
      rintro rfl
      simp [Update.attach, ← task] at windowless
    refine ⟨?_, ?_⟩
    · rwa [Update.attach, Windows.find_insert_ne (task.symm ▸ other)] at windowless
    · rw [attempts_cons_other fun h => other h.2.symm]
  | quiet shown none quiet same =>
    have windows : v.windows_ = u.windows_ := by
      cases same with
      | inl same => rw [same]
      | inr same => rw [same]; rfl
    refine ⟨windows ▸ windowless, ?_⟩
    by_cases ht : e.1.task = t
    · subst ht
      rw [attempts_cons_self shown]
      constructor
      · intro returns
        cases returns.quiet_or_gives with
        | inl gives => simp [quiet.gives] at gives
        | inr rest => exact rest.2
      · exact .quiet quiet
    · rw [attempts_cons_other fun h => ht h.2]

/-- A window that is there is neither replaced nor lost in the first loop. -/
theorem collect_kept {u v : Update} {e : WindowState × Attempt}
    (h : u.collect findByPackage e = .ok v) {t : Task.Id} {w : Window}
    (hw : u.windows_.find t = some w) : v.windows_.find t = some w := by
  cases collect_cases h with
  | hidden => exact hw
  | gather => rwa [Update.gather_windows]
  | attach shown none gives task =>
    rw [Update.attach, Windows.find_insert_ne, hw]
    rintro rfl
    rw [task, none] at hw
    cases hw
  | quiet shown none quiet same =>
    cases same with
    | inl same => rwa [same]
    | inr same => rwa [same]

/-- A task gets its window in the pass over an entry of its own. -/
theorem collect_opens {u v : Update} {e : WindowState × Attempt}
    (h : u.collect findByPackage e = .ok v) {t : Task.Id} (before : u.windows_.find t = none)
    (after : v.windows_.find t ≠ none) :
    e.1.shown = true ∧ e.1.task = t ∧ e.2.gives = true := by
  cases collect_cases h with
  | hidden hidden => exact absurd before after
  | gather shown hw =>
    rw [Update.gather_windows] at after
    exact absurd before after
  | attach shown none gives task =>
    by_cases ht : t = e.1.task
    · exact ⟨shown, ht.symm, gives⟩
    · rw [Update.attach, Windows.find_insert_ne (task.symm ▸ ht)] at after
      exact absurd before after
  | quiet shown none quiet same =>
    cases same with
    | inl same => exact absurd (same ▸ before) after
    | inr same => exact absurd (same ▸ before) after

/-- The first loop comes to its end when it does so for each task without a window. -/
theorem collected_iff {u : Update} {es : List (WindowState × Attempt)} :
    (∃ v, es.foldlM (Update.collect findByPackage) u = .ok v) ↔
      ∀ t, u.windows_.find t = none → Returns (attempts es t) := by
  induction es generalizing u with
  | nil => exact ⟨fun _ _ _ => .nil, fun _ => ⟨u, rfl⟩⟩
  | cons e es ih =>
    constructor
    · rintro ⟨v, hv⟩ t before
      obtain ⟨w, hw, hv⟩ := foldlM_cons_ok hv
      cases after : w.windows_.find t with
      | none => exact (collect_windowless hw after).2.mpr (ih.mp ⟨v, hv⟩ t after)
      | some _ =>
        obtain ⟨shown, rfl, gives⟩ := collect_opens hw before (by simp [after])
        rw [attempts_cons_self shown]
        exact .window _ gives
    · intro h
      have pass : ∃ v, u.collect findByPackage e = .ok v := by
        have returns (shown : e.1.shown = true) (none : u.windows_.find e.1.task = none) :
            Returns (e.2 :: attempts es e.1.task) := by
          rw [← attempts_cons_self shown]
          exact h _ none
        exact collect_returns returns
      obtain ⟨v, hv⟩ := pass
      rw [foldlM_cons_of_ok hv]
      apply ih.mpr
      intro t after
      obtain ⟨before, returns⟩ := collect_windowless hv after
      exact returns.mp (h t before)

/-! The other loops. -/

theorem updateStates_frame (u : Update) :
    u.updateStates.windows_ = u.windows_ ∧ u.updateStates.taskUpdates = u.taskUpdates := by
  unfold Update.updateStates
  generalize u.taskUpdates.entries.mergeSort (fun a b => a.1 ≤ b.1) = es
  induction es generalizing u with
  | nil => exact ⟨rfl, rfl⟩
  | cons e es ih =>
    have one : (u.updateState e.1 e.2).windows_ = u.windows_ ∧
        (u.updateState e.1 e.2).taskUpdates = u.taskUpdates := by
      unfold Update.updateState
      split <;> exact ⟨rfl, rfl⟩
    rw [List.foldl_cons]
    exact ⟨(ih _).1.trans one.1, (ih _).2.trans one.2⟩

theorem remove_find (u : Update) (window : WindowState) (t : Task.Id) :
    (u.remove window).windows_.find t =
      if t = window.task ∧ u.taskUpdates.lookup t = none then none else u.windows_.find t := by
  unfold Update.remove
  split
  · rename_i none
    split_ifs with mine
    · rw [mine.1, none]
    · rfl
  · rename_i w hw
    by_cases ht : t = window.task
    · subst ht
      split_ifs <;> simp_all
    · simp only [ht, false_and, if_false]
      split_ifs
      · exact Windows.find_erase_ne ht
      · rfl

theorem remove_updates (u : Update) (window : WindowState) :
    (u.remove window).taskUpdates = u.taskUpdates := by
  unfold Update.remove
  split
  · rfl
  · split_ifs <;> rfl

/-- The last loop takes the windows of the removed tasks away, but for those that have updates. -/
theorem removed_find (removed : List WindowState) (u : Update) (t : Task.Id) :
    (removed.foldl Update.remove u).windows_.find t =
      if t ∈ removed.map WindowState.task ∧ u.taskUpdates.lookup t = none then none
      else u.windows_.find t := by
  induction removed generalizing u with
  | nil => simp
  | cons window removed ih =>
    rw [List.foldl_cons, ih, remove_updates, remove_find]
    by_cases ht : t = window.task
    · by_cases none : u.taskUpdates.lookup t = none <;> simp [ht, none]
    · simp [ht]

/-- What the call leaves of a task's window, once the first loop is through. -/
theorem applied_find {ws : Windows} {updated : List (WindowState × Attempt)}
    {removed : List WindowState} {after : Update}
    (h : applyWindowStateUpdate findByPackage ws updated removed = .ok after) (t : Task.Id) :
    ∃ u, updated.foldlM (Update.collect findByPackage) (.start ws) = .ok u ∧
      after.windows_.find t =
        if t ∈ removed.map WindowState.task ∧ (u.progress t).updated = false then none
        else u.windows_.find t := by
  unfold applyWindowStateUpdate at h
  cases hu : updated.foldlM (Update.collect findByPackage) (.start ws) with
  | error v =>
    rw [hu] at h
    cases h
  | ok u =>
    rw [hu] at h
    obtain rfl := Except.ok.inj h
    refine ⟨u, rfl, ?_⟩
    obtain ⟨windows, updates⟩ := updateStates_frame u
    rw [removed_find, windows, updates]
    simp [Update.progress]

end MultiWindowManager

end Anbox.Wm
