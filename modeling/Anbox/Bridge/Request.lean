import Anbox.Bridge.AndroidApiStub

namespace Anbox.Bridge.AndroidApiStub

open Anbox.Framework
open Anbox.Rpc

variable {κ ρ : Type*}

/-- What the cache or the reading thread still has to complete belongs to a live Request: no reply
is delivered into a finished one. -/
def NamesLive (s : State κ ρ) : Prop := ∀ c, PendingCallCache.Pending s.rpc c → s.live c = true

/-- An operation that has timed out ends with its call completed, and one whose send has raised
ends with its reply not in hand. -/
def Completed (s : State κ ρ) : Action κ ρ → Prop
  | .finish c => s.phase c = .woken true → ¬ PendingCallCache.Pending s.rpc c
  | .rpc (.forceCompletion c) => s.rpc.reading.completion ≠ some c
  | _ => True

/-- A call is saved while its operation is in `call_method`, with the Request in place. -/
def CallsLive (s : State κ ρ) : Prop := ∀ c, s.phase c = .calling → s.live c = true

variable [DecidableEq κ]

theorem leave_live (s : State κ ρ) {c d : κ} (o : Outcome) :
    (s.leave c o).live d = true ↔ d ≠ c ∧ s.live d = true := by
  by_cases hd : d = c
  · subst d
    simp [State.leave]
  · simp [State.leave, State.enter, hd]

theorem CallsLive.enter {s : State κ ρ} (h : CallsLive s) {c : κ} {p : Phase}
    (hp : p ≠ .calling) : CallsLive (s.enter c p) := by
  intro d hd
  by_cases hdc : d = c
  · subst d
    exact absurd (by simpa [State.enter] using hd) hp
  · exact h d (by simpa [State.enter, hdc] using hd)

theorem CallsLive.leave {s : State κ ρ} (h : CallsLive s) (c : κ) (o : Outcome) :
    CallsLive (s.leave c o) := by
  intro d hd
  rw [leave_live]
  by_cases hdc : d = c
  · subst d
    simp [State.leave, State.enter] at hd
  · exact ⟨hdc, h d (by simpa [State.leave, State.enter, hdc] using hd)⟩

theorem CallsLive.follow {s : State κ ρ} (h : CallsLive s) (a : PendingCallCache.Action κ ρ) :
    CallsLive (s.follow a) := by
  cases a with
  | send c => exact h.enter (by simp)
  | forceCompletion c => exact h.leave c .sendFailed
  | _ => exact h

theorem CallsLive.request {op : κ → Operation} {s : State κ ρ} (h : CallsLive s) (c : κ) :
    CallsLive (s.request op c) := by
  intro d hd
  by_cases hdc : d = c
  · subst d
    simp [State.request]
  · have live := h d (by simpa [State.request, State.enter, hdc] using hd)
    simpa [State.request, State.enter, hdc] using live

theorem step_calls_live {op : κ → Operation} {hasError : ρ → Bool} {s t : State κ ρ}
    {a : Action κ ρ} (h : CallsLive s) (hs : step op hasError s a = some t) : CallsLive t := by
  cases step_cases hs with
  | setChannel | resetChannel | reply => exact h
  | refuse | wake | timeOut => exact h.enter (by simp)
  | request => exact h.request _
  | rpc => exact h.follow _
  | finish => exact h.leave _ _

theorem NamesLive.request {op : κ → Operation} {s : State κ ρ} (h : NamesLive s) (c : κ) :
    NamesLive (s.request op c) := by
  intro d hd
  by_cases hdc : d = c
  · subst d
    simp [State.request]
  · have live := h d hd
    simpa [State.request, State.enter, hdc] using live

/-- An operation without a pending call may end. -/
theorem NamesLive.leave {s : State κ ρ} (h : NamesLive s) {c : κ} (o : Outcome)
    (hc : ¬ PendingCallCache.Pending s.rpc c) : NamesLive (s.leave c o) := by
  intro d hd
  rw [leave_live]
  refine ⟨?_, h d hd⟩
  intro e
  subst e
  exact hc hd

theorem NamesLive.rpc {op : κ → Operation} {s : State κ ρ} (h : NamesLive s) (hc : CallsLive s)
    {b : PendingCallCache.Action κ ρ} {rpc : PendingCallCache.State κ ρ} (hb : permits op s b)
    (ha : Completed s (.rpc b)) (hrpc : PendingCallCache.step s.rpc b = some rpc) :
    ∀ d, PendingCallCache.Pending rpc d → (s.follow b).live d = true := by
  intro d hd
  cases b with
  | forceCompletion c =>
    have held := (PendingCallCache.force_pending hrpc).mp hd
    show (s.leave c .sendFailed).live d = true
    rw [leave_live]
    refine ⟨?_, h d (.inr held)⟩
    intro e
    subst e
    exact ha held
  | saveCompletionDetails c =>
    cases PendingCallCache.step_pending hrpc hd with
    | inl pending => exact h d pending
    | inr save =>
      obtain rfl : c = d := by simpa using save
      exact hc c (by simpa [permits] using hb)
  | _ =>
    cases PendingCallCache.step_pending hrpc hd with
    | inl pending => exact h d pending
    | inr save => cases save

theorem step_names_live {op : κ → Operation} {hasError : ρ → Bool} {s t : State κ ρ}
    {a : Action κ ρ} (hn : Counted op s) (hc : CallsLive s) (h : NamesLive s)
    (ha : Completed s a) (hs : step op hasError s a = some t) : NamesLive t := by
  cases step_cases hs with
  | setChannel | resetChannel | refuse | wake | timeOut => exact h
  | request => exact h.request _
  | rpc hb hrpc => exact h.rpc hc hb ha hrpc
  | reply _ hrpc =>
    intro d hd
    cases PendingCallCache.step_pending hrpc hd with
    | inl pending => exact h d pending
    | inr save => cases save
  | finish hw =>
    rename_i c w
    apply h.leave
    intro pending
    cases w with
    | true => exact ha hw pending
    | false => exact hn.woken c hw (hn.rpc.pending_unrun pending)

theorem completed_of_names_live {op : κ → Operation} {hasError : ρ → Bool} {s t : State κ ρ}
    {a : Action κ ρ} (hs : step op hasError s a = some t) (ht : NamesLive t) : Completed s a := by
  cases a with
  | finish c =>
    intro hw hd
    obtain rfl : _ = t := by simpa [step, hw] using hs
    have live := ht c hd
    rw [leave_live] at live
    exact live.1 rfl
  | rpc b =>
    cases b with
    | forceCompletion c =>
      intro held
      cases step_cases hs with
      | rpc hb hrpc =>
        have dead := ht c ((PendingCallCache.force_pending hrpc).mpr held)
        exact ((leave_live s .sendFailed).mp dead).1 rfl
    | _ => trivial
  | _ => trivial

/-- Over every run no reply is delivered into a finished request precisely when the operations
that time out or raise from their send leave no call of theirs pending. -/
theorem names_live_iff (op : κ → Operation) (hasError : ρ → Bool) (as : List (Action κ ρ)) :
    Always (step op hasError) NamesLive (init : State κ ρ) as ↔
      Along (step op hasError) Completed init as := by
  apply always_iff_along (I := fun s => Counted op s ∧ CallsLive s ∧ NamesLive s)
  · intro s h
    exact h.2.2
  · intro s a t h ha hs
    exact ⟨step_counted h.1 hs, step_calls_live h.2.1 hs, step_names_live h.1 h.2.1 h.2.2 ha hs⟩
  · intro s a t _ hs ht
    exact completed_of_names_live hs ht
  · refine ⟨init_counted op, ?_, ?_⟩
    · intro c hc
      simp [init] at hc
    · intro c hc
      obtain ⟨id, hid⟩ | hid := hc
      · simp [init, PendingCallCache.init] at hid
      · cases hid

/-- A launch that is never answered. -/
def lateLaunch : List (Action Nat Unit) :=
  .setRpcChannel :: waitForReply 0 ++ [.timeOut 0, .finish 0]

/-- The operation reports its timeout, and a late reply still fills its response. -/
theorem late_reply_fills_finished :
    ∃ t u, run (step (fun _ => .launch) fun _ => false) init lateLaunch = some t ∧
      t.phase 0 = .ended .timedOut ∧ t.live 0 = false ∧ ¬ NamesLive t ∧
      step (fun _ => .launch) (fun _ => false) t (.reply 0 ()) = some u ∧
      u.rpc.response 0 = [(0, ())] := by
  refine ⟨_, _, rfl, by decide, by decide, fun h => ?_, rfl, rfl⟩
  exact absurd (h 0 (.inl ⟨0, rfl⟩)) (by decide)

end Anbox.Bridge.AndroidApiStub
