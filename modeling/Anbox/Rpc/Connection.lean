import Anbox.Rpc.PendingCallCache

namespace Anbox.Rpc.Connection

open Anbox.Framework
open Anbox.Rpc.PendingCallCache (Calling Sending Reading)

variable {κ ρ : Type*}

/-- Which class reads from the connection. -/
inductive Reader where
  | socketConnection
  | client

/-- One connection with its channel. `reading` says that a read is outstanding or its bytes are
being processed, `removed` that the connection has left its Connections set, `terminated` that the
client has come to its terminate callback, `sendFailed` that the channel has seen a send raise. -/
structure State (κ ρ : Type*) where
  rpc : PendingCallCache.State κ ρ
  reading : Bool
  removed : Bool
  terminated : Bool
  sendFailed : Bool

def init : State κ ρ :=
  { rpc := PendingCallCache.init, reading := true, removed := false, terminated := false,
    sendFailed := false }

inductive Action (κ ρ : Type*) where
  | rpc (a : PendingCallCache.Action κ ρ)
  | processDataRaises
  | readFails

/-- `SocketConnection::on_read_size` and `Client::on_read_size` on an error. -/
def onReadError : Reader → State κ ρ → State κ ρ
  | .socketConnection, s => { s with reading := false, removed := true }
  | .client, s => { s with reading := false, terminated := true }

/-- The action hands a result to the cache. -/
def isResult : PendingCallCache.Action κ ρ → Bool
  | .populateMessageForResult _ _ => true
  | _ => false

/-- The result is for no pending call: at() throws out of process_data. -/
def isUnknown (s : PendingCallCache.State κ ρ) : PendingCallCache.Action κ ρ → Bool
  | .populateMessageForResult id _ => (s.pendingCalls_.lookup id).isNone
  | _ => false

def isDisconnect : PendingCallCache.Action κ ρ → Bool
  | .forceCompletion _ => true
  | _ => false

variable [DecidableEq κ]

def step (reader : Reader) (s : State κ ρ) : Action κ ρ → Option (State κ ρ)
  | .rpc a =>
    if isResult a && !s.reading then none
    else
      (PendingCallCache.step s.rpc a).map fun rpc =>
        { s with
          rpc := rpc
          reading := s.reading && !isUnknown s.rpc a
          sendFailed := s.sendFailed || isDisconnect a }
  | .processDataRaises =>
    -- from any other layer; on_read_size is left without a new read
    if s.reading ∧ s.rpc.reading = .idle then some { s with reading := false } else none
  | .readFails =>
    if s.reading ∧ s.rpc.reading = .idle then some (onReadError reader s) else none

def Lost (s : State κ ρ) : Prop := s.removed ∨ s.terminated ∨ s.sendFailed

/-- No pending call survives its connection. -/
def NoneLeft (s : State κ ρ) : Prop := Lost s → s.rpc.pendingCalls_ = ∅

/-- The read fails while no call is pending, and no call is saved after the connection is lost. -/
def Drained (s : State κ ρ) : Action κ ρ → Prop
  | .readFails => s.rpc.pendingCalls_ = ∅
  | .rpc (.saveCompletionDetails _) => ¬ Lost s
  | _ => True

inductive Step (reader : Reader) (s : State κ ρ) : Action κ ρ → State κ ρ → Prop where
  | rpc {a : PendingCallCache.Action κ ρ} {rpc : PendingCallCache.State κ ρ}
      (hr : isResult a = true → s.reading = true) (h : PendingCallCache.step s.rpc a = some rpc) :
      Step reader s (.rpc a)
        { s with
          rpc := rpc
          reading := s.reading && !isUnknown s.rpc a
          sendFailed := s.sendFailed || isDisconnect a }
  | raises (hr : s.reading = true) (hi : s.rpc.reading = .idle) :
      Step reader s .processDataRaises { s with reading := false }
  | readFails (hr : s.reading = true) (hi : s.rpc.reading = .idle) :
      Step reader s .readFails (onReadError reader s)

theorem step_cases {reader : Reader} {s t : State κ ρ} {a : Action κ ρ}
    (h : step reader s a = some t) : Step reader s a t := by
  cases a with
  | rpc b =>
    simp only [step] at h
    split at h
    · cases h
    · rename_i hb
      obtain ⟨rpc, hrpc, ht⟩ := Option.map_eq_some_iff.mp h
      rw [← ht]
      apply Step.rpc _ hrpc
      intro hr
      simpa [hr] using hb
  | processDataRaises =>
    simp only [step] at h
    split at h
    · rename_i hc
      exact Option.some.inj h ▸ .raises hc.1 hc.2
    · cases h
  | readFails =>
    simp only [step] at h
    split at h
    · rename_i hc
      exact Option.some.inj h ▸ .readFails hc.1 hc.2
    · cases h

omit [DecidableEq κ] in
theorem onReadError_rpc (reader : Reader) (s : State κ ρ) :
    (onReadError reader s).rpc = s.rpc := by
  cases reader <;> rfl

omit [DecidableEq κ] in
theorem onReadError_lost (reader : Reader) (s : State κ ρ) : Lost (onReadError reader s) := by
  cases reader with
  | socketConnection => exact .inl rfl
  | client => exact .inr (.inl rfl)

/-! Behind a lost connection nothing but a further failing send completes a call. -/

/-- Nobody reads, and no result is being handled. -/
def Unread (s : State κ ρ) : Prop := s.reading = false ∧ s.rpc.reading = .idle

theorem step_unread {reader : Reader} {s t : State κ ρ} {a : Action κ ρ} (h : Unread s)
    (ha : ∀ c, a ≠ .rpc (.forceCompletion c)) (hs : step reader s a = some t) :
    Unread t ∧ t.rpc.runs = s.rpc.runs := by
  obtain ⟨hr, hi⟩ := h
  cases step_cases hs with
  | rpc hb hrpc =>
    rename_i b rpc
    have quiet : rpc.reading = .idle ∧ ∀ c, c ∉ PendingCallCache.closures s.rpc b := by
      cases b with
      | forceCompletion c => exact absurd rfl (ha c)
      | populateMessageForResult id result => simp [isResult, hr] at hb
      | completeResponse => simp [PendingCallCache.step, hi] at hrpc
      | complete => simp [PendingCallCache.step, hi] at hrpc
      | _ =>
        refine ⟨?_, by simp [PendingCallCache.closures]⟩
        rw [← hi]
        exact PendingCallCache.caller_reading hrpc (by simp [PendingCallCache.isCaller])
    refine ⟨⟨by simp [hr], quiet.1⟩, funext fun c => ?_⟩
    show rpc.runs c = s.rpc.runs c
    rw [PendingCallCache.step_runs hrpc c, List.count_eq_zero.mpr (quiet.2 c), Nat.add_zero]
  | raises => exact ⟨⟨rfl, hi⟩, rfl⟩
  | readFails hr' =>
    rw [hr] at hr'
    cases hr'

/-- A caller that waits for its reply when the connection is lost waits on for as long as no send
fails. -/
theorem run_unread {reader : Reader} {s t : State κ ρ} {as : List (Action κ ρ)} (h : Unread s)
    (has : ∀ c, .rpc (.forceCompletion c) ∉ as) (hr : run (step reader) s as = some t) :
    t.rpc.runs = s.rpc.runs := by
  have along : Along (step reader) (fun _ a => ∀ c, a ≠ .rpc (.forceCompletion c)) s as := by
    apply along_of_forall
    intro a ha u c e
    exact has c (e ▸ ha)
  have kept : Unread t ∧ t.rpc.runs = s.rpc.runs := by
    apply invariant_run (I := fun u => Unread u ∧ u.rpc.runs = s.rpc.runs) _ ⟨h, rfl⟩ along hr
    intro u a v hu ha hs
    obtain ⟨h₁, h₂⟩ := step_unread hu.1 ha hs
    exact ⟨h₁, h₂.trans hu.2⟩
  exact kept.2

/-! The cache empties itself in no other way than by completing its calls, and only a save puts
one in. -/

theorem step_none_left {reader : Reader} {s t : State κ ρ} {a : Action κ ρ} (h : NoneLeft s)
    (ha : Drained s a) (hs : step reader s a = some t) : NoneLeft t := by
  cases step_cases hs with
  | rpc hb hrpc =>
    rename_i b rpc
    intro hl
    by_cases lost : Lost s
    · cases PendingCallCache.step_empty hrpc (h lost) with
      | inl empty => exact empty
      | inr save =>
        obtain ⟨c, e⟩ := save
        subst e
        exact absurd lost ha
    · have disconnect : isDisconnect b = true := by
        by_contra hn
        apply lost
        simpa [Lost, hn] using hl
      cases b with
      | forceCompletion c => exact PendingCallCache.force_empty hrpc
      | _ => cases disconnect
  | raises => exact h
  | readFails =>
    intro _
    rw [onReadError_rpc]
    exact ha

theorem drained_of_none_left {reader : Reader} {s t : State κ ρ} {a : Action κ ρ}
    (hs : step reader s a = some t) (ht : NoneLeft t) : Drained s a := by
  cases step_cases hs with
  | rpc hb hrpc =>
    rename_i b rpc
    cases b with
    | saveCompletionDetails c =>
      intro lost
      apply PendingCallCache.save_not_empty hrpc
      apply ht
      simpa [Lost, isDisconnect] using lost
    | _ => trivial
  | raises => trivial
  | readFails =>
    have e := ht (onReadError_lost reader s)
    rwa [onReadError_rpc] at e

/-- No pending call survives its connection precisely when reads fail only while none is pending
and none is saved once the connection is lost. -/
theorem none_left_iff (reader : Reader) (as : List (Action κ ρ)) :
    Always (step reader) NoneLeft (init : State κ ρ) as ↔ Along (step reader) Drained init as := by
  apply always_iff_along
  · intro s h
    exact h
  · intro s a t h ha hs
    exact step_none_left h ha hs
  · intro s a t _ hs ht
    exact drained_of_none_left hs ht
  · simp [NoneLeft, Lost, init]

/-- A call is sent, and then the peer closes the socket. -/
def readFailsOnCall : List (Action Nat Unit) :=
  [.rpc (.readId 0), .rpc (.writeId 0), .rpc (.saveCompletionDetails 0), .rpc (.send 0),
    .readFails]

theorem read_fails_leaves_call :
    ∃ t, run (step .socketConnection) init readFailsOnCall = some t ∧ t.removed ∧
      t.rpc.pendingCalls_.lookup 0 = some 0 ∧ ¬ NoneLeft t ∧
      ∀ as u, (∀ c, .rpc (.forceCompletion c) ∉ as) →
        run (step .socketConnection) t as = some u → u.rpc.runs 0 = 0 := by
  refine ⟨_, rfl, rfl, rfl, fun h => ?_, fun as u has hu => ?_⟩
  · have e := h (.inl rfl)
    cases e
  · exact congrFun (run_unread ⟨rfl, rfl⟩ has hu) 0

end Anbox.Rpc.Connection
