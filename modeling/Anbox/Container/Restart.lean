import Anbox.Container.Lifecycle

namespace Anbox.Container.LxcContainer

open Anbox.Framework

inductive Action where
  | start (a : Attempt)
  | stop (stopped : Bool)
  | die

/-- The container a call leaves, whether it returns or raises. -/
def left : Except LxcContainer LxcContainer → LxcContainer
  | .ok t | .error t => t

def act (setup : Setup) (s : LxcContainer) : Action → LxcContainer
  | .start a => left (s.start setup a)
  | .stop stopped => left (s.stop stopped)
  | .die => { s with running := false }

def step (setup : Setup) (s : LxcContainer) (a : Action) : Option LxcContainer := some (act setup s a)

/-- The items in force when a start with the configuration comes to the end of its items. -/
def inForce (setup : Setup) (s : LxcContainer) (host : Host) (configuration : Configuration) :
    Option Config :=
  (left ((s.prepare (.succeeds configuration host)).bind fun s =>
    s.configure setup (.succeeds configuration host))).container_

/-- The items an action sets. -/
def itemsSet (setup : Setup) (s : LxcContainer) : Action → List Item
  | .start a =>
    match s.prepare a with
    | .ok _ =>
      match a.configured with
      | some n => (setup.items a.host a.configuration).take n
      | none => setup.items a.host a.configuration
    | .error _ => []
  | .stop _ | .die => []

/-- All items the action sets are replaced by the items of a later start. -/
def SetsReplaced (setup : Setup) (host : Host) (configuration : Configuration) (s : LxcContainer)
    (a : Action) : Prop :=
  ∀ item ∈ itemsSet setup s a, Replaces listValued (setup.items host configuration) item.1

/-- The items in force, none before there is an `lxc_container`. -/
def config (s : LxcContainer) : Config := s.container_.getD .empty

variable {setup : Setup} {s t : LxcContainer} {a : Attempt}

theorem stopContainer_container (s : LxcContainer) (stopped : Bool) :
    (s.stopContainer stopped).container_ = s.container_ := by
  unfold stopContainer
  split_ifs <;> rfl

theorem create_container {t : LxcContainer} (h : s.create a = .ok t) :
    t.container_ = some s.config := by
  unfold create at h
  split at h
  · rename_i c there
    rw [← Except.ok.inj h, config, there]
    rfl
  · rename_i none
    split_ifs at h
    rw [← Except.ok.inj h, stopContainer_container, config, none]
    rfl

theorem prepare_container (h : s.prepare a = .ok t) : t.container_ = some s.config := by
  unfold prepare at h
  split_ifs at h
  rw [create_container h, config, stopContainer_container, config]

theorem prepare_error_config (h : s.prepare a = .error t) : t.config = s.config := by
  unfold prepare at h
  split_ifs at h
  · rw [← Except.error.inj h]
  · unfold create at h
    split at h
    · cases h
    · split_ifs at h
      rw [← Except.error.inj h, config, stopContainer_container, config]

theorem setItems_container {c : Config} (h : s.container_ = some c) (items : List Item) :
    (s.setItems items).container_ = some (Framework.setItems listValued c items) := by
  rw [setItems, h]
  rfl

theorem launch_container (s : LxcContainer) (a : Attempt) :
    (left (s.launch a)).container_ = s.container_ := by
  unfold launch
  split_ifs <;> rfl

/-- Each action sets its items on top of those that are in force. -/
theorem act_config (setup : Setup) (s : LxcContainer) (a : Action) :
    (act setup s a).config = Framework.setItems listValued s.config (itemsSet setup s a) := by
  cases a with
  | start a =>
    simp only [act, start, itemsSet]
    cases prepared : s.prepare a with
    | error t => exact prepare_error_config prepared
    | ok t =>
      have container := prepare_container prepared
      change (left ((t.configure setup a).bind fun s => s.launch a)).config = _
      unfold configure
      cases a.configured with
      | some n =>
        change ((t.setItems _).container_.getD .empty) = _
        rw [setItems_container container]
        rfl
      | none =>
        change ((left (launch _ a)).container_.getD .empty) = _
        rw [launch_container, setItems_container container]
        rfl
  | stop stopped =>
    simp only [act, stop, itemsSet]
    split_ifs <;> rfl
  | die => rfl

theorem inForce_eq (setup : Setup) (s : LxcContainer) (host : Host)
    (configuration : Configuration) : inForce setup s host configuration =
      some (Framework.setItems listValued s.config (setup.items host configuration)) := by
  unfold inForce
  cases prepared : s.prepare (.succeeds configuration host) with
  | error t =>
    unfold prepare create at prepared
    rw [if_neg (by simp [Attempt.succeeds])] at prepared
    split at prepared
    · cases prepared
    · rw [if_neg (by simp [Attempt.succeeds])] at prepared
      cases prepared
  | ok t => exact setItems_container (prepare_container prepared) _

/-- Nothing stays of what a run sets when it did not before, and no action sets what stays. -/
theorem none_stays_iff {host : Host} {configuration : Configuration} {as : List Action} :
    (∀ k, ¬ Replaces listValued (setup.items host configuration) k →
      (as.foldl (act setup) s).config k = []) ↔
    (∀ k, ¬ Replaces listValued (setup.items host configuration) k → s.config k = []) ∧
      Along (step setup) (SetsReplaced setup host configuration) s as := by
  induction as generalizing s with
  | nil => exact ⟨fun none => ⟨none, trivial⟩, fun h => h.1⟩
  | cons a as ih =>
    have sets : (∀ k, ¬ Replaces listValued (setup.items host configuration) k →
        (act setup s a).config k = []) ↔
        (∀ k, ¬ Replaces listValued (setup.items host configuration) k → s.config k = []) ∧
          SetsReplaced setup host configuration s a := by
      simp only [act_config, setItems_eq_nil_iff]
      constructor
      · intro none
        refine ⟨fun k stays => (none k stays).1, ?_⟩
        intro item hi
        by_contra stays
        exact (none item.1 stays).2 (List.mem_map_of_mem hi)
      · rintro ⟨none, replaced⟩ k stays
        refine ⟨none k stays, ?_⟩
        intro mem
        obtain ⟨item, hi, rfl⟩ := List.mem_map.mp mem
        exact stays (replaced item hi)
    rw [List.foldl_cons, ih, sets, and_assoc]
    constructor
    · rintro ⟨none, replaced, rest⟩
      exact ⟨none, along_cons rfl replaced rest⟩
    · rintro ⟨none, along⟩
      exact ⟨none, (along _ rfl).1, (along _ rfl).2⟩

/-- A start behind any others is given the items a fresh container is given exactly when it replaces
all the items they have set. -/
theorem same_configuration_iff (setup : Setup) (running fresh : Bool) (as : List Action)
    (host : Host) (configuration : Configuration) :
    inForce setup (as.foldl (act setup) (init running)) host configuration =
        inForce setup (init fresh) host configuration ↔
      Along (step setup) (SetsReplaced setup host configuration) (init running) as := by
  have empty (running : Bool) : (init running).config = fun _ => [] := rfl
  rw [inForce_eq, inForce_eq, Option.some_inj, empty, setItems_eq_iff, none_stays_iff]
  exact and_iff_right fun k _ => congrFun (empty running) k

/-- The container is set up, and cannot be started. -/
def notStarted : Attempt := { Attempt.succeeds ⟨[], [], []⟩ .plain with started := false }

/-- The id map of the start that failed is in force once more. -/
theorem id_map_twice : ¬ ∀ setup running fresh (as : List Action) host configuration,
    inForce setup (as.foldl (act setup) (init running)) host configuration =
      inForce setup (init fresh) host configuration := by
  intro h
  have same := h .plain false false [.start notStarted] .plain ⟨[], [], []⟩
  rw [inForce_eq, inForce_eq, Option.some_inj] at same
  have lengths := congrArg List.length (congrFun same .lxcConfigIdmapKey)
  exact absurd lengths (by decide)

end Anbox.Container.LxcContainer
