import Anbox.Wm.MultiWindowManager

namespace Anbox.Wm.MultiWindowManager

open Anbox.Framework
open Anbox.Bridge.AndroidApiStub (Outcome)

variable {findByPackage : String → Option String}

/-- `createWindow` is called and gives no window. -/
def Attempt.fails (a : Attempt) : Bool :=
  match a.created with
  | .null | .raised => true
  | .noPlatform | .window _ => false

/-- The creation of a window fails for the tasks `fails` and for no other. -/
structure Failing (fails : Task.Id → Bool) (ws : Windows) (updated : List (WindowState × Attempt)) :
    Prop where
  windowless : ∀ t, fails t = true → ws.find t = none
  failing : ∀ e ∈ updated, e.1.shown = true → fails e.1.task = true → e.2.fails = true
  others : ∀ e ∈ updated, e.1.shown = true → fails e.1.task = false → ws.find e.1.task = none →
    e.2.fails = false

/-- The effect is the request to remove one of the tasks. -/
def Effect.removes (fails : Task.Id → Bool) : Effect → Bool
  | .removeTask t => fails t
  | .attach _ | .updateState _ _ | .release _ => false

/-- The call as it looks without the requests to remove the tasks. -/
def Update.without (fails : Task.Id → Bool) (u : Update) : Update :=
  { u with log := u.log.filter fun e => !e.removes fails }

def others (fails : Task.Id → Bool) (updated : List (WindowState × Attempt)) :
    List (WindowState × Attempt) :=
  updated.filter fun e => !fails e.1.task

/-- The call handles all but the failing tasks as the call without these does, and leaves no window
of theirs. -/
def HandlesOthers (findByPackage : String → Option String) (fails : Task.Id → Bool) (ws : Windows)
    (updated : List (WindowState × Attempt)) (removed : List WindowState) : Prop :=
  ∃ after expected,
    applyWindowStateUpdate findByPackage ws updated removed = .ok after ∧
    applyWindowStateUpdate findByPackage ws (others fails updated)
      (removed.filter fun window => !fails window.task) = .ok expected ∧
    after.without fails = expected ∧
    ∀ t, fails t = true → after.windows_.find t = none

theorem mem_attempts {updated : List (WindowState × Attempt)} {t : Task.Id} {a : Attempt} :
    a ∈ attempts updated t ↔ ∃ e ∈ updated, e.1.shown = true ∧ e.1.task = t ∧ e.2 = a := by
  simp [attempts, and_assoc]

theorem Attempt.no_window {a : Attempt} (h : a.fails = true) : a.gives = false := by
  obtain ⟨created, removal⟩ := a
  cases created <;> first | rfl | cases h

theorem Attempt.loud_fails {a : Attempt} (loud : ¬ a.quiet) (gives : a.gives = false) :
    a.fails = true := by
  obtain ⟨created, removal⟩ := a
  cases created with
  | noPlatform => exact absurd (Or.inl rfl) loud
  | window attached => cases gives
  | null => rfl
  | raised => rfl

/-- Attempts of which none gives a window come to their end when each of them is quiet. -/
theorem returns_iff {as : List Attempt} (h : ∀ a ∈ as, a.gives = false) :
    Returns as ↔ ∀ a ∈ as, a.quiet := by
  induction as with
  | nil => simp [Returns.nil]
  | cons a as ih =>
    have gives : a.gives = false := h a List.mem_cons_self
    have rest := ih fun b hb => h b (List.mem_cons_of_mem a hb)
    constructor
    · intro returns
      have quiet := returns.quiet_or_gives.resolve_left (by simp [gives])
      exact List.forall_mem_cons.mpr ⟨quiet.1, rest.mp quiet.2⟩
    · intro quiet
      obtain ⟨quiet, quiets⟩ := List.forall_mem_cons.mp quiet
      exact .quiet quiet (rest.mpr quiets)

/-! What a call does for the other tasks, it does without the failing ones too. -/

namespace Update

variable (fails : Task.Id → Bool)

theorem without_gather (u : Update) (window : WindowState) :
    (u.gather window).without fails = (u.without fails).gather window := by
  unfold gather without
  cases u.taskUpdates.lookup window.task <;> simp only

theorem without_attach (u : Update) (w : Window) :
    (u.attach w).without fails = (u.without fails).attach w := by
  simp [attach, without, Effect.removes]

theorem without_removeTask {u : Update} {t : Task.Id} (h : fails t = true) :
    (u.removeTask t).without fails = u.without fails := by
  simp [removeTask, without, Effect.removes, h]

theorem without_removeTask_other {u : Update} {t : Task.Id} (h : fails t = false) :
    (u.removeTask t).without fails = (u.without fails).removeTask t := by
  simp [removeTask, without, Effect.removes, h]

theorem without_updateState (u : Update) (t : Task.Id) (states : List WindowState) :
    (u.updateState t states).without fails = (u.without fails).updateState t states := by
  unfold updateState without
  cases u.windows_.find t <;> simp [Effect.removes]

theorem without_updateStates (u : Update) :
    u.updateStates.without fails = (u.without fails).updateStates := by
  have loop (es : List (Sigma fun _ : Task.Id => List WindowState)) (u : Update) :
      (es.foldl (fun u e => u.updateState e.1 e.2) u).without fails =
        es.foldl (fun u e => u.updateState e.1 e.2) (u.without fails) := by
    induction es generalizing u with
    | nil => rfl
    | cons e es ih => rw [List.foldl_cons, ih, without_updateState, List.foldl_cons]
  exact loop _ u

theorem without_remove (u : Update) (window : WindowState) :
    (u.remove window).without fails = (u.without fails).remove window := by
  unfold remove without
  cases u.windows_.find window.task with
  | none => rfl
  | some w => split_ifs <;> simp_all [Effect.removes]

variable {fails}

theorem without_create {u v : Update} {window : WindowState} {attempt : Attempt}
    (other : fails window.task = false) (h : u.create findByPackage window attempt = .ok v) :
    (u.without fails).create findByPackage window attempt = .ok (v.without fails) := by
  unfold create at h ⊢
  split at h
  · rw [← Except.ok.inj h]
  · rw [← Except.ok.inj h, without_attach]
  · split_ifs at h ⊢
    rw [← Except.ok.inj h, without_removeTask_other fails other]
  · cases h

theorem without_collect {u v : Update} {e : WindowState × Attempt}
    (other : fails e.1.task = false) (h : u.collect findByPackage e = .ok v) :
    (u.without fails).collect findByPackage e = .ok (v.without fails) := by
  unfold collect at h ⊢
  split_ifs at h ⊢
  · rw [← Except.ok.inj h]
  · rw [← Except.ok.inj h]
  · have windows : (u.without fails).windows_ = u.windows_ := rfl
    rw [windows]
    cases hw : u.windows_.find e.1.task with
    | some w =>
      rw [hw] at h
      rw [← Except.ok.inj h, without_gather]
    | none =>
      rw [hw] at h
      exact without_create other h

/-- The pass over an entry of a failing task asks for no more than its removal. -/
theorem without_failing {u v : Update} {e : WindowState × Attempt} (mine : fails e.1.task = true)
    (windowless : u.windows_.find e.1.task = none) (failing : e.1.shown = true → e.2.fails = true)
    (h : u.collect findByPackage e = .ok v) : v.without fails = u.without fails := by
  cases collect_cases h with
  | hidden => rfl
  | gather shown hw =>
    rw [windowless] at hw
    cases hw
  | attach shown none gives =>
    rw [Attempt.no_window (failing shown)] at gives
    cases gives
  | quiet shown none quiet same =>
    cases same with
    | inl same => rw [same]
    | inr same => rw [same, without_removeTask fails mine]

end Update

section

variable {fails : Task.Id → Bool}

theorem Failing.next {u v : Update} {e : WindowState × Attempt} {es : List (WindowState × Attempt)}
    (failing : Failing fails u.windows_ (e :: es)) (h : u.collect findByPackage e = .ok v) :
    Failing fails v.windows_ es where
  windowless := by
    intro t ht
    by_contra opened
    obtain ⟨shown, rfl, gives⟩ := collect_opens h (failing.windowless t ht) opened
    rw [Attempt.no_window (failing.failing e List.mem_cons_self shown ht)] at gives
    cases gives
  failing := fun e he => failing.failing e (List.mem_cons_of_mem _ he)
  others := by
    intro e he shown other none
    apply failing.others e (List.mem_cons_of_mem _ he) shown other
    by_contra some
    obtain ⟨w, hw⟩ := Option.ne_none_iff_exists'.mp some
    rw [collect_kept h hw] at none
    cases none

/-- The failing tasks stay without windows, and the other entries do not notice them. -/
theorem others_collected {es : List (WindowState × Attempt)} {u : Update}
    (failing : Failing fails u.windows_ es)
    (quiet : ∀ e ∈ es, e.1.shown = true → fails e.1.task = true → e.2.quiet) :
    ∃ v, es.foldlM (Update.collect findByPackage) u = .ok v ∧
      (others fails es).foldlM (Update.collect findByPackage) (u.without fails) =
        .ok (v.without fails) ∧
      ∀ t, fails t = true → v.windows_.find t = none := by
  induction es generalizing u with
  | nil => exact ⟨u, rfl, rfl, failing.windowless⟩
  | cons e es ih =>
    have pass : ∃ v, u.collect findByPackage e = .ok v := by
      cases hv : u.collect findByPackage e with
      | ok v => exact ⟨v, rfl⟩
      | error v =>
        cases collect_cases hv with
        | raised shown none loud gives =>
          cases mine : fails e.1.task with
          | true => exact absurd (quiet e List.mem_cons_self shown mine) loud
          | false =>
            have made := failing.others e List.mem_cons_self shown mine none
            rw [Attempt.loud_fails loud gives] at made
            cases made
    obtain ⟨v, hv⟩ := pass
    obtain ⟨w, hw, hidden, windowless⟩ :=
      ih (failing.next hv) fun e he => quiet e (List.mem_cons_of_mem _ he)
    refine ⟨w, by rw [foldlM_cons_of_ok hv, hw], ?_, windowless⟩
    cases mine : fails e.1.task with
    | true =>
      have skipped : others fails (e :: es) = others fails es := by simp [others, mine]
      have same := Update.without_failing mine (failing.windowless _ mine)
        (fun shown => failing.failing e List.mem_cons_self shown mine) hv
      rw [skipped, ← same, hidden]
    | false =>
      have kept : others fails (e :: es) = e :: others fails es := by simp [others, mine]
      rw [kept, foldlM_cons_of_ok (Update.without_collect mine hv), hidden]

/-- The removals of failing tasks find no window, and the others are made alike. -/
theorem others_removed {removed : List WindowState} {u : Update}
    (windowless : ∀ t, fails t = true → u.windows_.find t = none) :
    (removed.foldl Update.remove u).without fails =
      (removed.filter fun window => !fails window.task).foldl Update.remove (u.without fails) := by
  induction removed generalizing u with
  | nil => rfl
  | cons window removed ih =>
    have kept (t : Task.Id) (ht : fails t = true) : (u.remove window).windows_.find t = none := by
      rw [remove_find, windowless t ht, ite_self]
    rw [List.foldl_cons, ih kept]
    cases mine : fails window.task with
    | true =>
      have same : u.remove window = u := by rw [Update.remove, windowless _ mine]
      simp [mine, same]
    | false => simp [mine, Update.without_remove]

/-- An update is not lost to windows that cannot be created exactly when `createWindow` returns
null for each of them, and the guest removes their tasks when it is asked to. -/
theorem handlesOthers_iff {ws : Windows} {updated : List (WindowState × Attempt)}
    {removed : List WindowState} (failing : Failing fails ws updated) :
    HandlesOthers findByPackage fails ws updated removed ↔
      ∀ e ∈ updated, e.1.shown = true → fails e.1.task = true → e.2.quiet := by
  constructor
  · rintro ⟨after, -, h, -⟩ e he shown mine
    obtain ⟨u, hu, -⟩ := applied_find h e.1.task
    have returns := collected_iff.mp ⟨u, hu⟩ e.1.task (failing.windowless _ mine)
    have none_gives (a : Attempt) (ha : a ∈ attempts updated e.1.task) : a.gives = false := by
      obtain ⟨d, hd, shown, task, rfl⟩ := mem_attempts.mp ha
      exact Attempt.no_window (failing.failing d hd shown (task ▸ mine))
    exact (returns_iff none_gives).mp returns _ (mem_attempts.mpr ⟨e, he, shown, rfl, rfl⟩)
  · intro quiet
    have started : Failing fails (Update.start ws).windows_ updated := failing
    obtain ⟨u, hu, hidden, windowless⟩ := others_collected started quiet
    have windows := (updateStates_frame u).1
    refine ⟨_, _, by rw [applyWindowStateUpdate, hu]; rfl,
      by rw [applyWindowStateUpdate]; exact congrArg _ hidden, ?_, ?_⟩
    · rw [others_removed (windows ▸ windowless), Update.without_updateStates]
    · intro t ht
      rw [removed_find, windows, windowless t ht, ite_self]

/-- The window of task 1 cannot be created, and the guest does not answer when it is asked to remove
the task: task 2 is not looked at any more. -/
def unanswered : List (WindowState × Attempt) :=
  [(⟨true, ⟨0, 0, 640, 480⟩, "org.example", 1, .Freeform⟩, ⟨.null, .timedOut⟩),
    (⟨true, ⟨0, 0, 640, 480⟩, "org.example", 2, .Freeform⟩, ⟨.window true, .returned⟩)]

theorem unanswered_failing : Failing (fun t => t = 1) .empty unanswered where
  windowless := fun _ _ => rfl
  failing := by decide
  others := by decide

theorem window_lost : ¬ ∀ fails ws updated removed, Failing fails ws updated →
    HandlesOthers (fun _ => none) fails ws updated removed := by
  intro h
  obtain ⟨after, -, ha, -⟩ := h _ _ unanswered [] unanswered_failing
  cases ha

/-- The same update when the guest does remove the task. -/
theorem handlesOthers_answered :
    HandlesOthers (fun _ => none) (fun t => t = 1) .empty
      [(⟨true, ⟨0, 0, 640, 480⟩, "org.example", 1, .Freeform⟩, ⟨.null, .returned⟩)] [] :=
  (handlesOthers_iff ⟨fun _ _ => rfl, by decide, by decide⟩).mpr (by decide)

end

end Anbox.Wm.MultiWindowManager
