import Anbox.Framework.Run
import Mathlib.Data.Finset.Basic
import Mathlib.Data.Finset.Card
import Mathlib.Logic.Function.Basic

namespace Anbox.Network.SocketConnection

open Anbox.Framework

/-- How `processData` leaves: it returns true or false, or raises. -/
inductive Processed where
  | proceed
  | finished
  | raised
  deriving DecidableEq

/-- The connections of a `container::Service`. `reads id` counts the reads outstanding for the
connection, `executing id` says that its on_read_size is inside `processData`. -/
structure State where
  connections_ : Finset Nat
  nextConnectionId_ : Nat
  reads : Nat → Nat
  executing : Nat → Bool

def init : State :=
  { connections_ := ∅, nextConnectionId_ := 0, reads := fun _ => 0, executing := fun _ => false }

inductive Action where
  | newClient
  | onReadSize (id : Nat) (error : Bool)
  | processed (id : Nat) (result : Processed)

def State.readNextMessage (s : State) (id : Nat) : State :=
  { s with reads := Function.update s.reads id (s.reads id + 1) }

def State.remove (s : State) (id : Nat) : State :=
  { s with connections_ := s.connections_.erase id }

/-- `Service::new_client` lets a client in only while there is none. -/
def State.admits (s : State) : Prop := s.connections_.card < 1

instance (s : State) : Decidable s.admits := inferInstanceAs (Decidable (_ < _))

/-- The connection is added and starts to read. -/
def State.accept (s : State) : State :=
  { s with
    nextConnectionId_ := s.nextConnectionId_ + 1
    connections_ := insert s.nextConnectionId_ s.connections_ }.readNextMessage
      s.nextConnectionId_

/-- The read outstanding for the connection completes. -/
def State.completed (s : State) (id : Nat) : State :=
  { s with reads := Function.update s.reads id (s.reads id - 1) }

def State.execute (s : State) (id : Nat) (executing : Bool) : State :=
  { s with executing := Function.update s.executing id executing }

def step (s : State) : Action → Option State
  | .newClient => some (if s.admits then s.accept else s)
  | .onReadSize id error =>
    if 0 < s.reads id ∧ s.executing id = false then
      some (if error then (s.completed id).remove id else (s.completed id).execute id true)
    else none
  | .processed id result =>
    if s.executing id then
      match result with
      | .proceed => some ((s.execute id false).readNextMessage id)
      | .finished => some ((s.execute id false).remove id)
      -- exception_safe_run catches it and lets the service go on
      | .raised => some (s.execute id false)
    else none

/-- No connection is left in limbo, and the next client is let in once nothing goes on for any
earlier one. -/
structure Served (s : State) : Prop where
  reads_or_removed : ∀ id, id < s.nextConnectionId_ → s.executing id = false →
    s.reads id = 1 ∨ id ∉ s.connections_
  admits : (∀ id, s.reads id = 0 ∧ s.executing id = false) → s.admits

/-- process_data does not raise. -/
def Returns (_ : State) : Action → Prop
  | .processed _ result => result ≠ .raised
  | _ => True

/-! A connection that has been started is in process_data, or has a read outstanding, or has been
removed. -/

inductive Phase (s : State) (id : Nat) : Prop where
  | executing (h : s.executing id = true) (r : s.reads id = 0) (m : id ∈ s.connections_)
  | reading (h : s.executing id = false) (r : s.reads id = 1) (m : id ∈ s.connections_)
  | removed (h : s.executing id = false) (r : s.reads id = 0) (m : id ∉ s.connections_)

structure Settled (s : State) : Prop where
  started : ∀ id, id < s.nextConnectionId_ → Phase s id
  fresh : ∀ id, s.nextConnectionId_ ≤ id →
    s.executing id = false ∧ s.reads id = 0 ∧ id ∉ s.connections_

theorem init_settled : Settled init where
  started id h := absurd h (Nat.not_lt_zero id)
  fresh id _ := by simp [init]

theorem Settled.phase {s : State} (h : Settled s) (id : Nat) : Phase s id := by
  by_cases hi : id < s.nextConnectionId_
  · exact h.started id hi
  · obtain ⟨e₁, e₂, e₃⟩ := h.fresh id (Nat.le_of_not_lt hi)
    exact .removed e₁ e₂ e₃

/-- A step on one connection leaves the others as they are. -/
theorem Settled.update {s t : State} (h : Settled s) {id : Nat} (hi : id < s.nextConnectionId_)
    (next : t.nextConnectionId_ = s.nextConnectionId_) (self : Phase t id)
    (others : ∀ j, j ≠ id → t.executing j = s.executing j ∧ t.reads j = s.reads j ∧
      (j ∈ t.connections_ ↔ j ∈ s.connections_)) : Settled t := by
  refine ⟨fun j hj => ?_, fun j hj => ?_⟩
  · by_cases hji : j = id
    · rw [hji]
      exact self
    · obtain ⟨e₁, e₂, e₃⟩ := others j hji
      cases h.started j (next ▸ hj) with
      | executing hx hr hm => exact .executing (e₁.trans hx) (e₂.trans hr) (e₃.mpr hm)
      | reading hx hr hm => exact .reading (e₁.trans hx) (e₂.trans hr) (e₃.mpr hm)
      | removed hx hr hm => exact .removed (e₁.trans hx) (e₂.trans hr) (mt e₃.mp hm)
  · have hji : j ≠ id := by omega
    obtain ⟨e₁, e₂, e₃⟩ := others j hji
    obtain ⟨f₁, f₂, f₃⟩ := h.fresh j (next ▸ hj)
    exact ⟨e₁.trans f₁, e₂.trans f₂, mt e₃.mp f₃⟩

theorem Settled.started_of_active {s : State} (h : Settled s) {id : Nat}
    (active : s.executing id = true ∨ 0 < s.reads id) : id < s.nextConnectionId_ := by
  by_contra hi
  obtain ⟨e₁, e₂, -⟩ := h.fresh id (Nat.le_of_not_lt hi)
  rcases active with a | a
  · rw [e₁] at a
    cases a
  · omega

theorem Settled.accept {s : State} (h : Settled s) : Settled s.accept := by
  obtain ⟨n₁, n₂, n₃⟩ := h.fresh s.nextConnectionId_ (Nat.le_refl _)
  refine ⟨fun j hj => ?_, fun j hj => ?_⟩
  · by_cases hji : j = s.nextConnectionId_
    · subst j
      exact .reading n₁ (by simp [State.accept, State.readNextMessage, n₂])
        (by simp [State.accept, State.readNextMessage])
    · have hlt : j < s.nextConnectionId_ := by
        simp only [State.accept, State.readNextMessage] at hj
        omega
      cases h.started j hlt with
      | executing hx hr hm =>
        exact .executing hx (by simpa [State.accept, State.readNextMessage, hji] using hr)
          (Finset.mem_insert_of_mem hm)
      | reading hx hr hm =>
        exact .reading hx (by simpa [State.accept, State.readNextMessage, hji] using hr)
          (Finset.mem_insert_of_mem hm)
      | removed hx hr hm =>
        exact .removed hx (by simpa [State.accept, State.readNextMessage, hji] using hr)
          (by simp [State.accept, State.readNextMessage, hji, hm])
  · simp only [State.accept, State.readNextMessage] at hj ⊢
    have hji : j ≠ s.nextConnectionId_ := by omega
    obtain ⟨f₁, f₂, f₃⟩ := h.fresh j (by omega)
    exact ⟨f₁, by simpa [hji] using f₂, by simp [hji, f₃]⟩

/-- While process_data runs no read is outstanding, and the connection is in the set. -/
theorem Settled.executes {s : State} (h : Settled s) {id : Nat} (hx : s.executing id = true) :
    s.reads id = 0 ∧ id ∈ s.connections_ := by
  cases h.phase id with
  | executing _ hr hm => exact ⟨hr, hm⟩
  | reading hx' _ _ => simp [hx] at hx'
  | removed hx' _ _ => simp [hx] at hx'

theorem Settled.reads {s : State} (h : Settled s) {id : Nat} (hr : 0 < s.reads id) :
    s.reads id = 1 ∧ id ∈ s.connections_ := by
  cases h.phase id with
  | executing _ hr' _ => omega
  | reading _ hr' hm => exact ⟨hr', hm⟩
  | removed _ hr' _ => omega

/-- The read that completes is the only one; its connection is removed, or processes the bytes. -/
theorem Settled.onReadSize {s : State} (h : Settled s) {id : Nat} (hr : 0 < s.reads id)
    (hx : s.executing id = false) :
    Settled ((s.completed id).remove id) ∧ Settled ((s.completed id).execute id true) := by
  have hi := h.started_of_active (.inr hr)
  obtain ⟨one, hm⟩ := h.reads hr
  constructor
  · refine h.update hi (by rfl) ?_ ?_
    · exact .removed hx (by simp [State.remove, State.completed, one])
        (by simp [State.remove, State.completed])
    · intro j hj
      simp [State.remove, State.completed, hj]
  · refine h.update hi (by rfl) ?_ ?_
    · exact .executing (by simp [State.execute])
        (by simp [State.execute, State.completed, one]) hm
    · intro j hj
      simp [State.execute, State.completed, hj]

/-- Behind process_data the connection reads on, or is removed. -/
theorem Settled.processed {s : State} (h : Settled s) {id : Nat} (hx : s.executing id = true) :
    Settled ((s.execute id false).readNextMessage id) ∧
      Settled ((s.execute id false).remove id) := by
  have hi := h.started_of_active (.inl hx)
  obtain ⟨none, hm⟩ := h.executes hx
  constructor
  · refine h.update hi (by rfl) ?_ ?_
    · exact .reading (by simp [State.readNextMessage, State.execute])
        (by simp [State.readNextMessage, State.execute, none]) hm
    · intro j hj
      simp [State.readNextMessage, State.execute, hj]
  · refine h.update hi (by rfl) ?_ ?_
    · exact .removed (by simp [State.remove, State.execute]) none
        (by simp [State.remove, State.execute])
    · intro j hj
      simp [State.remove, State.execute, hj]

theorem step_settled {s t : State} {a : Action} (h : Settled s) (ha : Returns s a)
    (hs : step s a = some t) : Settled t := by
  cases a with
  | newClient =>
    obtain rfl := Option.some.inj hs
    split
    · exact h.accept
    · exact h
  | onReadSize id error =>
    simp only [step] at hs
    split at hs
    · rename_i hc
      obtain rfl := Option.some.inj hs
      obtain ⟨removed, executing⟩ := h.onReadSize hc.1 hc.2
      cases error with
      | true => exact removed
      | false => exact executing
    · cases hs
  | processed id result =>
    simp only [step] at hs
    split at hs
    · rename_i hc
      obtain ⟨reading, removed⟩ := h.processed hc
      cases result with
      | proceed => exact Option.some.inj hs ▸ reading
      | finished => exact Option.some.inj hs ▸ removed
      | raised => exact absurd rfl ha
    · cases hs

theorem Settled.served {s : State} (h : Settled s) : Served s where
  reads_or_removed id _ hx := by
    cases h.phase id with
    | executing hx' _ _ => simp [hx] at hx'
    | reading _ hr _ => exact .inl hr
    | removed _ _ hm => exact .inr hm
  admits := by
    intro idle
    have none : s.connections_ = ∅ := by
      apply Finset.eq_empty_of_forall_notMem
      intro id hm
      obtain ⟨i₁, i₂⟩ := idle id
      cases h.phase id with
      | executing hx _ _ => simp [i₂] at hx
      | reading _ hr _ => omega
      | removed _ _ hm' => exact hm' hm
    simp [State.admits, none]

/-- An exception leaves the connection in the set with nothing outstanding. -/
theorem Settled.returns_of_served {s t : State} {a : Action} (h : Settled s)
    (hs : step s a = some t) (ht : Served t) : Returns s a := by
  cases a with
  | processed id result =>
    intro e
    subst e
    simp only [step] at hs
    split at hs
    · rename_i hc
      obtain rfl := Option.some.inj hs
      obtain ⟨none, hm⟩ := h.executes hc
      cases ht.reads_or_removed id (h.started_of_active (.inl hc)) (by simp [State.execute]) with
      | inl one => simp [State.execute, none] at one
      | inr removed => exact removed hm
    · cases hs
  | _ => trivial

/-- Over every run of the service no connection is left in limbo precisely when no call of
process_data raises. -/
theorem connections_served_iff (as : List Action) :
    Always step Served init as ↔ Along step Returns init as := by
  apply always_iff_along
  · intro s h
    exact Settled.served h
  · intro s a t h ha hs
    exact step_settled h ha hs
  · intro s a t h hs ht
    exact Settled.returns_of_served h hs ht
  · exact init_settled

/-- A client sends bytes on which process_data raises; the next client is turned away. -/
def raisingClient : List Action :=
  [.newClient, .onReadSize 0 false, .processed 0 .raised, .newClient]

theorem raising_client_stays :
    ∃ t, run step init raisingClient = some t ∧ t.connections_ = {0} ∧
      t.nextConnectionId_ = 1 ∧ (∀ id, t.reads id = 0 ∧ t.executing id = false) ∧ ¬ t.admits ∧
      ¬ Served t := by
  have idle : ∀ id, (Function.update (Function.update (fun _ => 0) 0 1) 0 0 : Nat → Nat) id = 0 ∧
      (Function.update (Function.update (fun _ => false) 0 true) 0 false : Nat → Bool) id =
        false := by
    intro id
    by_cases hi : id = 0
    · simp [hi]
    · simp [hi]
  refine ⟨_, rfl, rfl, rfl, idle, by decide, fun h => ?_⟩
  exact absurd (h.admits idle) (by decide)

end Anbox.Network.SocketConnection
