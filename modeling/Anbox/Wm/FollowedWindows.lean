import Anbox.Wm.MultiWindowManager

namespace Anbox.Wm.MultiWindowManager

open Anbox.Framework

variable {findByPackage : String → Option String}

/-- The task has an entry that is shown. -/
def InUse (updated : List (WindowState × Attempt)) (t : Task.Id) : Prop :=
  ∃ e ∈ updated, e.1.shown = true ∧ e.1.task = t

/-- The windows `after` an update of the windows `ws` are those the guest has. -/
structure Follows (ws : Windows) (updated : List (WindowState × Attempt))
    (removed : List WindowState) (after : Windows) : Prop where
  present : ∀ t, (after.find t).isSome = true ↔
    InUse updated t ∨ (ws.find t).isSome = true ∧ t ∉ removed.map WindowState.task
  one : ∀ t, (after.find t).isSome = true → ∃! w, w ∈ values after.table ∧ w.task_ = t
  kept : ∀ t w, ws.find t = some w → InUse updated t → after.find t = some w

/-- The call returns, and the windows follow the guest's. -/
def FollowsUpdate (findByPackage : String → Option String) (ws : Windows)
    (updated : List (WindowState × Attempt)) (removed : List WindowState) : Prop :=
  ∃ after, applyWindowStateUpdate findByPackage ws updated removed = .ok after ∧
    Follows ws updated removed after.windows_

/-- Nothing raises before an attempt gives a window; when the task is removed as well, that is not
its last entry. -/
inductive Lasts (removed : Prop) : List Attempt → Prop where
  | window {a : Attempt} {as : List Attempt} (gives : a.gives = true)
      (followed : removed → as ≠ []) : Lasts removed (a :: as)
  | quiet {a : Attempt} {as : List Attempt} (quiet : a.quiet) (rest : Lasts removed as) :
      Lasts removed (a :: as)

theorem inUse_iff {updated : List (WindowState × Attempt)} {t : Task.Id} :
    InUse updated t ↔ attempts updated t ≠ [] := by
  rw [Ne, attempts_eq_nil]
  constructor
  · rintro ⟨e, he, shown, task⟩ none
    exact none e he shown task
  · intro h
    by_contra unused
    apply h
    intro e he shown task
    exact unused ⟨e, he, shown, task⟩

theorem foldl_next_window {p : Progress} (window : p.window = true) (as : List Attempt) :
    as.foldl Progress.next p = { window := true, updated := p.updated || decide (as ≠ []) } := by
  obtain ⟨w, updated⟩ := p
  obtain rfl : w = true := window
  induction as generalizing updated with
  | nil => simp
  | cons a as ih =>
    rw [List.foldl_cons]
    change as.foldl Progress.next ⟨true, true⟩ = _
    rw [ih]
    simp

theorem Progress.next_gives {a : Attempt} (gives : a.gives = true) :
    Progress.next ⟨false, false⟩ a = ⟨true, false⟩ := by
  simp [Progress.next, gives]

/-- A task that begins without a window ends with one exactly when its window lasts. -/
theorem lasts_iff {removed : Prop} {as : List Attempt} : Lasts removed as ↔ Returns as ∧
    (as.foldl Progress.next ⟨false, false⟩).window = true ∧
    (removed → (as.foldl Progress.next ⟨false, false⟩).updated = true) := by
  induction as with
  | nil =>
    constructor
    · intro h
      cases h
    · intro h
      cases h.2.1
  | cons a as ih =>
    rw [List.foldl_cons]
    by_cases gives : a.gives = true
    · rw [Progress.next_gives gives, foldl_next_window rfl]
      constructor
      · intro h
        cases h with
        | window _ followed => exact ⟨.window _ gives, rfl, by simpa using followed⟩
        | quiet quiet => simp [quiet.gives] at gives
      · intro h
        exact .window gives (by simpa using h.2.2)
    · constructor
      · intro h
        cases h with
        | window given => exact absurd given gives
        | quiet quiet rest =>
          rw [quiet.next rfl]
          exact ⟨.quiet quiet (ih.mp rest).1, (ih.mp rest).2⟩
      · rintro ⟨returns, survives⟩
        obtain ⟨quiet, rest⟩ := returns.quiet_or_gives.resolve_left gives
        rw [quiet.next rfl] at survives
        exact .quiet quiet (ih.mpr ⟨rest, survives⟩)

theorem survives_iff {ws : Windows} {updated : List (WindowState × Attempt)}
    {removed : List WindowState} {after : Update}
    (h : applyWindowStateUpdate findByPackage ws updated removed = .ok after) (t : Task.Id) :
    (after.windows_.find t).isSome = true ↔
      ((attempts updated t).foldl Progress.next ⟨(ws.find t).isSome, false⟩).window = true ∧
      (t ∈ removed.map WindowState.task →
        ((attempts updated t).foldl Progress.next ⟨(ws.find t).isSome, false⟩).updated = true) := by
  obtain ⟨u, hu, find⟩ := applied_find h t
  have progress : u.progress t =
      (attempts updated t).foldl Progress.next ⟨(ws.find t).isSome, false⟩ := by
    rw [collected_progress hu]
    rfl
  rw [find, ← progress]
  by_cases mem : t ∈ removed.map WindowState.task
  · cases updated : (u.progress t).updated <;> simp [mem, Update.progress]
  · simp [mem, Update.progress]

/-- The host's windows follow the guest's in an update exactly when each task that is shown and has
no window yet is given one that lasts. -/
theorem follows_iff (ws : Windows) (updated : List (WindowState × Attempt))
    (removed : List WindowState) : FollowsUpdate findByPackage ws updated removed ↔
      ∀ t, ws.find t = none → InUse updated t →
        Lasts (t ∈ removed.map WindowState.task) (attempts updated t) := by
  constructor
  · rintro ⟨after, h, follows⟩ t none used
    have survives := (survives_iff h t).mp ((follows.present t).mpr (Or.inl used))
    obtain ⟨u, hu, -⟩ := applied_find h t
    rw [none] at survives
    exact lasts_iff.mpr ⟨collected_iff.mp ⟨u, hu⟩ t none, survives⟩
  · intro lasts
    have returns : ∃ u, updated.foldlM (Update.collect findByPackage) (.start ws) = .ok u := by
      apply collected_iff.mpr
      intro t none
      by_cases used : InUse updated t
      · exact (lasts_iff.mp (lasts t none used)).1
      · rw [not_not.mp (mt inUse_iff.mpr used)]
        exact .nil
    obtain ⟨u, hu⟩ := returns
    have h : applyWindowStateUpdate findByPackage ws updated removed =
        .ok (removed.foldl Update.remove u.updateStates) := by
      rw [applyWindowStateUpdate, hu]
      rfl
    refine ⟨_, h, ?_, fun t => Windows.oneWindow, ?_⟩
    · intro t
      rw [survives_iff h t, inUse_iff]
      cases before : ws.find t with
      | some w =>
        rw [foldl_next_window rfl]
        by_cases none : attempts updated t = [] <;> simp [none]
      | none =>
        by_cases used : InUse updated t
        · have survives := (lasts_iff.mp (lasts t before used)).2
          exact iff_of_true survives (Or.inl (inUse_iff.mp used))
        · have none := not_not.mp (mt inUse_iff.mpr used)
          simp [none]
    · intro t w hw used
      obtain ⟨v, hv, find⟩ := applied_find h t
      rw [find, collected_progress hv]
      have progress : (Update.start ws).progress t = ⟨true, false⟩ := by
        simp [Update.progress, Update.start, hw]
      rw [progress, foldl_next_window rfl, if_neg (by simp [inUse_iff.mp used])]
      exact foldlM_invariant (I := fun u => u.windows_.find t = some w)
        (fun _ _ _ hi hs => collect_kept hs hi) hw hv

/-- The state of a task's window, in the freeform stack and with a surface. -/
def freeform (t : Task.Id) : WindowState where
  hasSurface := true
  frame := ⟨0, 0, 640, 480⟩
  packageName := "org.example"
  task := t
  stack := .Freeform

/-- A task that comes and goes in one update is in use and has no window. -/
theorem created_and_removed : ¬ ∀ ws updated removed,
    FollowsUpdate (fun _ => none) ws updated removed := by
  intro h
  obtain ⟨after, ha, follows⟩ :=
    h .empty [(freeform 7, ⟨.window true, .returned⟩)] [freeform 7]
  have used : InUse [(freeform 7, (⟨.window true, .returned⟩ : Attempt))] 7 :=
    ⟨_, List.mem_cons_self, rfl, rfl⟩
  have survives := (survives_iff ha 7).mp ((follows.present 7).mpr (Or.inl used))
  exact absurd (survives.2 (by decide)) (by decide)

end Anbox.Wm.MultiWindowManager
