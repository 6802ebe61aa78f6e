import Anbox.Rpc.PendingCallCache
import Mathlib.Data.Finset.Card

namespace Anbox.Common

/-- The counters of a `WaitHandle`. -/
structure WaitHandle where
  expecting : Nat
  received : Nat
  deriving DecidableEq

def WaitHandle.init : WaitHandle := { expecting := 0, received := 0 }

def WaitHandle.expectResult (w : WaitHandle) : WaitHandle :=
  { w with expecting := w.expecting + 1 }

/-- `result_received`, `n` times. -/
def WaitHandle.resultsReceived (w : WaitHandle) (n : Nat) : WaitHandle :=
  { w with received := w.received + n }

def WaitHandle.hasResult (w : WaitHandle) : Bool := 0 < w.received

/-- What `wait_for_pending` waits for. -/
def WaitHandle.allReceived (w : WaitHandle) : Bool := w.received = w.expecting

end Anbox.Common

namespace Anbox.Bridge.AndroidApiStub

open Anbox.Framework
open Anbox.Common (WaitHandle)
open Anbox.Rpc

variable {κ ρ : Type*}

/-- The operation a call is made by. Calls made `elsewhere` go through another channel of the
process and share no more than the counter of the ids. -/
inductive Operation where
  | launch
  | setFocusedTask
  | removeTask
  | resizeTask
  | stopContainer
  | elsewhere
  deriving DecidableEq

/-- The wait handles of the stub, and those inside the requests of `ManagementApiStub`. -/
inductive Handle (κ : Type*) where
  | launchWaitHandle_
  | setFocusedTaskHandle_
  | removeTaskHandle_
  | resizeTaskHandle_
  | wh (c : κ)
  deriving DecidableEq

def handle (op : κ → Operation) (c : κ) : Handle κ :=
  match op c with
  | .launch => .launchWaitHandle_
  | .setFocusedTask => .setFocusedTaskHandle_
  | .removeTask => .removeTaskHandle_
  | .resizeTask => .resizeTaskHandle_
  | .stopContainer | .elsewhere => .wh c

/-- How an operation ends: it returns, or raises one of its exceptions. -/
inductive Outcome where
  | returned
  | notConnected
  | sendFailed
  | timedOut
  | remoteError
  deriving DecidableEq

/-- Where an operation stands: inside `call_method`, inside `wait_for_pending`, or behind it. -/
inductive Phase where
  | idle
  | calling
  | waiting
  | woken (timedOut : Bool)
  | ended (o : Outcome)
  deriving DecidableEq

/-- A stub with its channel and the cache behind that. `live c` says that the Request of the
operation exists, `replied c` that the answer to the request it has sent has come in. -/
structure State (κ ρ : Type*) where
  rpc : PendingCallCache.State κ ρ
  channel_ : Bool
  phase : κ → Phase
  handles : Handle κ → WaitHandle
  live : κ → Bool
  replied : κ → Bool

def init : State κ ρ :=
  { rpc := PendingCallCache.init, channel_ := false, phase := fun _ => .idle,
    handles := fun _ => WaitHandle.init, live := fun _ => false, replied := fun _ => false }

/-- What happens next. `reply c` is the guest's answer to the request of `c`, under the id that
request bears; a result that answers no request of this stub comes in by `rpc`. -/
inductive Action (κ ρ : Type*) where
  | setRpcChannel
  | resetRpcChannel
  | call (c : κ)
  | rpc (a : PendingCallCache.Action κ ρ)
  | reply (c : κ) (result : ρ)
  | wake (c : κ)
  | timeOut (c : κ)
  | finish (c : κ)

variable [DecidableEq κ]

def State.enter (s : State κ ρ) (c : κ) (p : Phase) : State κ ρ :=
  { s with phase := Function.update s.phase c p }

/-- The operation returns or raises, and its Request goes with it. -/
def State.leave (s : State κ ρ) (c : κ) (o : Outcome) : State κ ρ :=
  { s.enter c (.ended o) with live := Function.update s.live c false }

/-- The Request is made and the handle expects its result. -/
def State.request (op : κ → Operation) (s : State κ ρ) (c : κ) : State κ ρ :=
  { s.enter c .calling with
    live := Function.update s.live c true
    handles := Function.update s.handles (handle op c) (s.handles (handle op c)).expectResult }

/-- A calling thread takes the steps of `call_method` of its own call. -/
def permits (op : κ → Operation) (s : State κ ρ) : PendingCallCache.Action κ ρ → Bool
  | .readId c | .writeId c => s.phase c = .calling || op c = .elsewhere
  | .saveCompletionDetails c | .send c | .sendRaises c | .forceCompletion c =>
    s.phase c = .calling
  | _ => true

/-- How `call_method` goes back to the operation. -/
def State.follow (s : State κ ρ) : PendingCallCache.Action κ ρ → State κ ρ
  | .send c => s.enter c .waiting
  | .forceCompletion c => s.leave c .sendFailed
  | _ => s

/-- The closures run: `application_launched` and its siblings. -/
def State.notify (op : κ → Operation) (s : State κ ρ) (cs : List κ) : State κ ρ :=
  { s with handles := fun h =>
    (s.handles h).resultsReceived (cs.countP fun c => handle op c = h) }

/-- How the operation ends behind its wait. `stopContainer` does not ask for a result. -/
def outcome (op : κ → Operation) (hasError : ρ → Bool) (s : State κ ρ) (c : κ) : Outcome :=
  if op c ≠ .stopContainer ∧ (s.handles (handle op c)).hasResult = false then .timedOut
  else if (s.rpc.response c).getLast?.any fun r => hasError r.2 then .remoteError
  else .returned

def step (op : κ → Operation) (hasError : ρ → Bool) (s : State κ ρ) :
    Action κ ρ → Option (State κ ρ)
  | .setRpcChannel => some { s with channel_ := true }
  | .resetRpcChannel => some { s with channel_ := false }
  | .call c =>
    if s.phase c = .idle ∧ op c ≠ .elsewhere then
      -- ensure_rpc_channel
      if op c ≠ .stopContainer ∧ s.channel_ = false then some (s.enter c (.ended .notConnected))
      else some (s.request op c)
    else none
  | .rpc a =>
    if permits op s a then
      (PendingCallCache.step s.rpc a).map fun rpc =>
        { (s.follow a).notify op (PendingCallCache.closures s.rpc a) with rpc := rpc }
    else none
  | .reply c result =>
    match s.rpc.calling c with
    | .saved id .sending | .saved id .sent =>
      -- a request is answered once, and its bytes may be through before send returns
      if s.replied c = false then
        (PendingCallCache.step s.rpc (.populateMessageForResult id result)).map fun rpc =>
          { s with rpc := rpc, replied := Function.update s.replied c true }
      else none
    | _ => none
  | .wake c =>
    if s.phase c = .waiting ∧ (s.handles (handle op c)).allReceived then
      some (s.enter c (.woken false))
    else none
  | .timeOut c =>
    if s.phase c = .waiting ∧ (s.handles (handle op c)).allReceived = false then
      some (s.enter c (.woken true))
    else none
  | .finish c =>
    match s.phase c with
    | .woken _ => some (s.leave c (outcome op hasError s c))
    | _ => none

inductive Step (op : κ → Operation) (hasError : ρ → Bool) (s : State κ ρ) :
    Action κ ρ → State κ ρ → Prop where
  | setChannel : Step op hasError s .setRpcChannel { s with channel_ := true }
  | resetChannel : Step op hasError s .resetRpcChannel { s with channel_ := false }
  | refuse {c : κ} (hc : s.phase c = .idle) :
      Step op hasError s (.call c) (s.enter c (.ended .notConnected))
  | request {c : κ} (hc : s.phase c = .idle) : Step op hasError s (.call c) (s.request op c)
  | rpc {b : PendingCallCache.Action κ ρ} {rpc : PendingCallCache.State κ ρ}
      (hb : permits op s b = true) (hrpc : PendingCallCache.step s.rpc b = some rpc) :
      Step op hasError s (.rpc b)
        { (s.follow b).notify op (PendingCallCache.closures s.rpc b) with rpc := rpc }
  | reply {c : κ} {id : UInt32} {result : ρ} {rpc : PendingCallCache.State κ ρ}
      (hc : (s.rpc.calling c).savedId = some id)
      (hrpc : PendingCallCache.step s.rpc (.populateMessageForResult id result) = some rpc) :
      Step op hasError s (.reply c result)
        { s with rpc := rpc, replied := Function.update s.replied c true }
  | wake {c : κ} (hc : s.phase c = .waiting)
      (hw : (s.handles (handle op c)).allReceived = true) :
      Step op hasError s (.wake c) (s.enter c (.woken false))
  | timeOut {c : κ} (hc : s.phase c = .waiting) :
      Step op hasError s (.timeOut c) (s.enter c (.woken true))
  | finish {c : κ} {w : Bool} (hc : s.phase c = .woken w) :
      Step op hasError s (.finish c) (s.leave c (outcome op hasError s c))

theorem step_cases {op : κ → Operation} {hasError : ρ → Bool} {s t : State κ ρ} {a : Action κ ρ}
    (h : step op hasError s a = some t) : Step op hasError s a t := by
  cases a with
  | setRpcChannel => exact Option.some.inj h ▸ .setChannel
  | resetRpcChannel => exact Option.some.inj h ▸ .resetChannel
  | call c =>
    simp only [step] at h
    split at h
    · rename_i hc
      split at h
      · exact Option.some.inj h ▸ .refuse hc.1
      · exact Option.some.inj h ▸ .request hc.1
    · cases h
  | rpc b =>
    simp only [step] at h
    split at h
    · rename_i hb
      obtain ⟨rpc, hrpc, ht⟩ := Option.map_eq_some_iff.mp h
      exact ht ▸ .rpc hb hrpc
    · cases h
  | reply c result =>
    simp only [step] at h
    split at h
    · rename_i id hc
      split at h
      · obtain ⟨rpc, hrpc, ht⟩ := Option.map_eq_some_iff.mp h
        exact ht ▸ .reply (by rw [hc]; rfl) hrpc
      · cases h
    · rename_i id hc
      split at h
      · obtain ⟨rpc, hrpc, ht⟩ := Option.map_eq_some_iff.mp h
        exact ht ▸ .reply (by rw [hc]; rfl) hrpc
      · cases h
    · cases h
  | wake c =>
    simp only [step] at h
    split at h
    · rename_i hc
      exact Option.some.inj h ▸ .wake hc.1 hc.2
    · cases h
  | timeOut c =>
    simp only [step] at h
    split at h
    · rename_i hc
      exact Option.some.inj h ▸ .timeOut hc.1
    · cases h
  | finish c =>
    simp only [step] at h
    split at h
    · rename_i w hw
      exact Option.some.inj h ▸ .finish hw
    · cases h

/-! Whatever else happens, the handles count: a handle expects one result for each of its calls,
and has received one for each of these whose closure has run. -/

/-- The operation has made its Request. -/
def Begun (s : State κ ρ) (c : κ) : Prop := s.phase c ≠ .idle ∧ s.phase c ≠ .ended .notConnected

structure Counted (op : κ → Operation) (s : State κ ρ) : Prop where
  rpc : PendingCallCache.Linked s.rpc
  saved : ∀ c, (s.rpc.calling c).savedId ≠ none → Begun s c
  counts : ∃ b : Finset κ, (∀ c, c ∈ b ↔ Begun s c) ∧ ∀ h,
    (s.handles h).expecting = (b.filter fun c => handle op c = h).card ∧
    (s.handles h).received = (b.filter fun c => handle op c = h ∧ s.rpc.runs c ≠ 0).card
  woken : ∀ c, s.phase c = .woken false → s.rpc.runs c ≠ 0

theorem init_counted (op : κ → Operation) : Counted op (init : State κ ρ) where
  rpc := PendingCallCache.init_linked
  saved c h := absurd rfl h
  counts := by
    refine ⟨∅, by simp [Begun, init], fun h => ⟨?_, ?_⟩⟩
    · rw [Finset.filter_empty]
      rfl
    · rw [Finset.filter_empty]
      rfl
  woken c h := by simp [init] at h

theorem Counted.ran {op : κ → Operation} {s : State κ ρ} (h : Counted op s) {c : κ}
    (hc : s.rpc.runs c ≠ 0) : Begun s c := by
  apply h.saved
  intro none
  exact hc (h.rpc.ran c none)

/-- A handle has a result once the closure of any of its calls has run. -/
theorem Counted.hasResult_iff {op : κ → Operation} {s : State κ ρ} (h : Counted op s)
    (w : Handle κ) :
    (s.handles w).hasResult = true ↔ ∃ c, handle op c = w ∧ s.rpc.runs c ≠ 0 := by
  obtain ⟨b, hb, hn⟩ := h.counts
  rw [WaitHandle.hasResult, decide_eq_true_eq, (hn w).2, Finset.card_pos]
  constructor
  · intro hc
    obtain ⟨c, hc⟩ := hc
    exact ⟨c, (Finset.mem_filter.mp hc).2⟩
  · intro hc
    obtain ⟨c, hw, hr⟩ := hc
    exact ⟨c, Finset.mem_filter.mpr ⟨(hb c).mpr (h.ran hr), hw, hr⟩⟩

/-- A handle that has received all it expects has seen the closures of all its calls run. -/
theorem Counted.allReceived {op : κ → Operation} {s : State κ ρ} (h : Counted op s) {c : κ}
    (hc : Begun s c) (hw : (s.handles (handle op c)).allReceived = true) : s.rpc.runs c ≠ 0 := by
  obtain ⟨b, hb, hn⟩ := h.counts
  obtain ⟨he, hr⟩ := hn (handle op c)
  rw [WaitHandle.allReceived, decide_eq_true_eq, he, hr] at hw
  have sub : (b.filter fun d => handle op d = handle op c ∧ s.rpc.runs d ≠ 0) ⊆
      b.filter fun d => handle op d = handle op c := by
    intro d hd
    obtain ⟨hd, hh, -⟩ := Finset.mem_filter.mp hd
    exact Finset.mem_filter.mpr ⟨hd, hh⟩
  have all := Finset.eq_of_subset_of_card_le sub (le_of_eq hw.symm)
  have mem : c ∈ b.filter fun d => handle op d = handle op c :=
    Finset.mem_filter.mpr ⟨(hb c).mpr hc, rfl⟩
  rw [← all] at mem
  exact (Finset.mem_filter.mp mem).2.2

/-- Running closures that had not run adds as many to what the predicate counts. -/
theorem card_ran {b : Finset κ} {runs : κ → Nat} {cs : List κ} (hcs : cs.Nodup)
    (fresh : ∀ c ∈ cs, c ∈ b ∧ runs c = 0) (p : κ → Prop) [DecidablePred p] :
    (b.filter fun c => p c ∧ runs c + cs.count c ≠ 0).card =
      (b.filter fun c => p c ∧ runs c ≠ 0).card + cs.countP p := by
  have split : (b.filter fun c => p c ∧ runs c + cs.count c ≠ 0) =
      (b.filter fun c => p c ∧ runs c ≠ 0) ∪ (cs.filter p).toFinset := by
    ext c
    by_cases hc : c ∈ cs
    · have pos := List.count_pos_iff.mpr hc
      obtain ⟨hb, hr⟩ := fresh c hc
      simp [hb, hr, hc, Nat.ne_of_gt pos]
    · simp [hc, List.count_eq_zero.mpr hc]
  have apart : Disjoint (b.filter fun c => p c ∧ runs c ≠ 0) (cs.filter p).toFinset := by
    rw [Finset.disjoint_left]
    intro c hc hd
    have hr := (fresh c (List.mem_of_mem_filter (List.mem_toFinset.mp hd))).2
    exact (Finset.mem_filter.mp hc).2.2 hr
  rw [split, Finset.card_union_of_disjoint apart,
    List.toFinset_card_of_nodup (hcs.filter _), List.countP_eq_length_filter]

/-- Going from one phase to another changes no count while the Request stays or stays unmade. -/
theorem Counted.enter {op : κ → Operation} {s : State κ ρ} (h : Counted op s) {c : κ} {p : Phase}
    (hp : p ≠ .idle ∧ p ≠ .ended .notConnected ↔ Begun s c)
    (hw : p = .woken false → s.rpc.runs c ≠ 0) : Counted op (s.enter c p) := by
  have begun (d : κ) : Begun (s.enter c p) d ↔ Begun s d := by
    by_cases hd : d = c
    · subst d
      rw [← hp]
      simp [Begun, State.enter]
    · simp [Begun, State.enter, hd]
  obtain ⟨b, hb, hn⟩ := h.counts
  refine ⟨h.rpc, fun d hd => (begun d).mpr (h.saved d hd),
    ⟨b, fun d => (hb d).trans (begun d).symm, hn⟩, fun d hd => ?_⟩
  by_cases hdc : d = c
  · subst d
    exact hw (by simpa [State.enter] using hd)
  · exact h.woken d (by simpa [State.enter, hdc] using hd)

theorem request_received (op : κ → Operation) (s : State κ ρ) (c : κ) (w : Handle κ) :
    ((s.request op c).handles w).received = (s.handles w).received := by
  by_cases hw : w = handle op c
  · subst w
    simp [State.request, WaitHandle.expectResult]
  · simp [State.request, State.enter, hw]

/-- A new Request counts for its handle, which now expects one result more. -/
theorem Counted.request {op : κ → Operation} {s : State κ ρ} (h : Counted op s) {c : κ}
    (hc : s.phase c = .idle) : Counted op (s.request op c) := by
  have new : ¬ Begun s c := fun hb => hb.1 hc
  have begun (d : κ) : Begun (s.request op c) d ↔ d = c ∨ Begun s d := by
    by_cases hd : d = c
    · subst d
      simp [Begun, State.request, State.enter]
    · simp [Begun, State.request, State.enter, hd]
  have unrun : s.rpc.runs c = 0 := by
    by_contra hr
    exact new (h.ran hr)
  obtain ⟨b, hb, hn⟩ := h.counts
  have fresh : c ∉ b := mt (hb c).mp new
  refine ⟨h.rpc, fun d hd => (begun d).mpr (.inr (h.saved d hd)),
    ⟨insert c b, fun d => ?_, fun w => ⟨?_, ?_⟩⟩, fun d hd => ?_⟩
  · rw [Finset.mem_insert, begun d, hb d]
  · by_cases hw : handle op c = w
    · subst w
      rw [Finset.filter_insert, if_pos rfl,
        Finset.card_insert_of_notMem (fun hm => fresh (Finset.mem_filter.mp hm).1)]
      simp [State.request, WaitHandle.expectResult, (hn (handle op c)).1]
    · rw [Finset.filter_insert, if_neg hw]
      simpa [State.request, State.enter, Ne.symm hw] using (hn w).1
  · rw [Finset.filter_insert, if_neg (fun hm => hm.2 unrun), request_received]
    exact (hn w).2
  · by_cases hdc : d = c
    · subst d
      simp [State.request, State.enter] at hd
    · exact h.woken d (by simpa [State.request, State.enter, hdc] using hd)

/-- A step of the cache: every closure it runs gives its handle one result. -/
theorem Counted.notify {op : κ → Operation} {s : State κ ρ} (h : Counted op s)
    {a : PendingCallCache.Action κ ρ} {rpc : PendingCallCache.State κ ρ}
    (ha : ∀ c, a = .saveCompletionDetails c → Begun s c)
    (hs : PendingCallCache.step s.rpc a = some rpc) :
    Counted op { s.notify op (PendingCallCache.closures s.rpc a) with rpc := rpc } := by
  have linked := PendingCallCache.step_linked h.rpc hs
  have runs := PendingCallCache.step_runs hs
  obtain ⟨b, hb, hn⟩ := h.counts
  refine ⟨linked, fun c hc => ?_,
    ⟨b, hb, fun w => ⟨(hn w).1, ?_⟩⟩, fun c hc => ?_⟩
  · rcases PendingCallCache.step_savedId hs hc with e | e
    · exact h.saved c e
    · exact ha c e
  · have fresh : ∀ c ∈ PendingCallCache.closures s.rpc a, c ∈ b ∧ s.rpc.runs c = 0 := by
      intro c hc
      obtain ⟨e₁, e₂⟩ := h.rpc.closures_fresh hc
      exact ⟨(hb c).mpr (h.saved c e₁), e₂⟩
    have more := card_ran (h.rpc.closures_nodup a) fresh fun c => handle op c = w
    simp only [State.notify, WaitHandle.resultsReceived, (hn w).2, runs]
    exact more.symm
  · have := h.woken c hc
    have := runs c
    show rpc.runs c ≠ 0
    omega

/-- Between the operation's own steps nothing but its phase and its Request changes. -/
theorem Counted.live {op : κ → Operation} {s : State κ ρ} (h : Counted op s) (live : κ → Bool) :
    Counted op { s with live := live } :=
  ⟨h.rpc, h.saved, h.counts, h.woken⟩

omit [DecidableEq κ] in
/-- Behind its wait an operation is connected and its send has not failed. -/
theorem outcome_waited (op : κ → Operation) (hasError : ρ → Bool) (s : State κ ρ) (c : κ) :
    outcome op hasError s c ≠ .notConnected ∧ outcome op hasError s c ≠ .sendFailed := by
  unfold outcome
  split
  · simp
  · split
    · simp
    · simp

theorem Counted.leave {op : κ → Operation} {s : State κ ρ} (h : Counted op s) {c : κ} {o : Outcome}
    (hc : Begun s c) (ho : o ≠ .notConnected) : Counted op (s.leave c o) := by
  apply Counted.live
  apply h.enter
  · simp [hc, ho]
  · simp

/-- The steps of `call_method` count as far as the operation is back from it. -/
theorem Counted.follow {op : κ → Operation} {s : State κ ρ} (h : Counted op s)
    {a : PendingCallCache.Action κ ρ} (ha : permits op s a) : Counted op (s.follow a) := by
  cases a with
  | send c =>
    have hc : s.phase c = .calling := by simpa [permits] using ha
    apply h.enter
    · simp [Begun, hc]
    · simp
  | forceCompletion c =>
    have hc : s.phase c = .calling := by simpa [permits] using ha
    apply h.leave
    · simp [Begun, hc]
    · simp
  | _ => exact h

theorem follow_rpc (s : State κ ρ) (a : PendingCallCache.Action κ ρ) :
    (s.follow a).rpc = s.rpc := by
  cases a <;> rfl

theorem step_counted {op : κ → Operation} {hasError : ρ → Bool} {s t : State κ ρ}
    {a : Action κ ρ} (h : Counted op s) (hs : step op hasError s a = some t) : Counted op t := by
  cases step_cases hs with
  | setChannel | resetChannel => exact ⟨h.rpc, h.saved, h.counts, h.woken⟩
  | refuse hc =>
    apply h.enter
    · simp [Begun, hc]
    · simp
  | request hc => exact h.request hc
  | rpc hb hrpc =>
    rename_i b rpc
    rw [← follow_rpc s b] at hrpc ⊢
    apply (h.follow hb).notify _ hrpc
    intro c e
    subst e
    have hc : s.phase c = .calling := by simpa [permits] using hb
    simp [Begun, State.follow, hc]
  | reply hc hrpc =>
    have counted := h.notify (fun c e => by cases e) hrpc
    exact ⟨counted.rpc, counted.saved, counted.counts, counted.woken⟩
  | wake hc hw =>
    rename_i c
    have begun : Begun s c := by simp [Begun, hc]
    apply h.enter
    · simp [begun]
    · intro _
      exact h.allReceived begun hw
  | timeOut hc =>
    apply h.enter
    · simp [Begun, hc]
    · simp
  | finish hc =>
    apply h.leave
    · simp [Begun, hc]
    · exact (outcome_waited op hasError s _).1

/-! What an operation of AndroidApiStub tells its caller. -/

/-- An operation returns normally only behind its own reply, and one without reply reports that. -/
structure OwnReply (op : κ → Operation) (s : State κ ρ) : Prop where
  returned : ∀ c, op c ≠ .stopContainer → s.phase c = .ended .returned → s.replied c = true
  unanswered : ∀ c o, op c ≠ .stopContainer → s.phase c = .ended o → s.replied c = false →
    o = .timedOut ∨ o = .sendFailed ∨ o = .notConnected

/-- Results are not mixed up. An operation whose wait has run out before its call has completed
finds no result of another call in its handle. A result that comes in under the id of a pending
call answers that call's request, and nothing is saved under its id before it is completed. A send
that raises leaves no other call unanswered in the cache. -/
def Unmixed (op : κ → Operation) (s : State κ ρ) : Action κ ρ → Prop
  | .finish c => op c ≠ .stopContainer → s.phase c = .woken true → s.rpc.runs c = 0 →
      ∀ d, handle op d = handle op c → s.rpc.runs d = 0
  | .reply c _ => ∀ id d, (s.rpc.calling c).savedId = some id →
      s.rpc.pendingCalls_.lookup id = some d → d = c
  | .rpc (.populateMessageForResult id _) => s.rpc.pendingCalls_.lookup id = none
  | .rpc (.saveCompletionDetails c) => ∀ id, s.rpc.calling c = .numbered id →
      s.rpc.reading ≠ .populated id
  | .rpc (.forceCompletion c) => ∀ id d, s.rpc.pendingCalls_.lookup id = some d →
      d = c ∨ s.rpc.reading = .populated id
  | _ => True

theorem step_ended {op : κ → Operation} {hasError : ρ → Bool} {s t : State κ ρ} {a : Action κ ρ}
    (hs : step op hasError s a = some t) {c : κ} {o : Outcome} (hc : t.phase c = .ended o) :
    s.phase c = .ended o ∨ o = .notConnected ∨ o = .sendFailed ∨
      a = .finish c ∧ o = outcome op hasError s c := by
  have entered {d : κ} {p : Phase} (ht : t.phase = Function.update s.phase d p) :
      s.phase c = .ended o ∨ c = d ∧ p = .ended o := by
    by_cases hcd : c = d
    · subst d
      exact .inr ⟨rfl, by simpa [ht] using hc⟩
    · exact .inl (by simpa [ht, hcd] using hc)
  cases step_cases hs with
  | setChannel | resetChannel | reply => exact .inl hc
  | refuse =>
    cases entered rfl with
    | inl e => exact .inl e
    | inr e => exact .inr (.inl (Phase.ended.inj e.2).symm)
  | request | wake | timeOut =>
    cases entered rfl with
    | inl e => exact .inl e
    | inr e => cases e.2
  | rpc =>
    rename_i b rpc _ _
    cases b with
    | send d =>
      cases entered rfl with
      | inl e => exact .inl e
      | inr e => cases e.2
    | forceCompletion d =>
      cases entered rfl with
      | inl e => exact .inl e
      | inr e => exact .inr (.inr (.inl (Phase.ended.inj e.2).symm))
    | _ => exact .inl hc
  | finish =>
    cases entered rfl with
    | inl e => exact .inl e
    | inr e =>
      obtain ⟨e, eo⟩ := e
      subst e
      exact .inr (.inr (.inr ⟨rfl, (Phase.ended.inj eo).symm⟩))

theorem step_replied {op : κ → Operation} {hasError : ρ → Bool} {s t : State κ ρ} {a : Action κ ρ}
    (hs : step op hasError s a = some t) {c : κ} (hc : s.replied c = true) :
    t.replied c = true := by
  cases step_cases hs with
  | reply =>
    rename_i d _ _ _ _ _
    by_cases hcd : c = d
    · simp [hcd]
    · simpa [hcd] using hc
  | rpc =>
    rename_i b _ _ _
    cases b <;> exact hc
  | _ => exact hc

/-- Before any call on its handle has completed, an operation ends by reporting its timeout. -/
theorem Counted.times_out {op : κ → Operation} {s : State κ ρ} (h : Counted op s)
    (hasError : ρ → Bool) {c : κ} (hc : op c ≠ .stopContainer) :
    outcome op hasError s c = .timedOut ↔
      ∀ d, handle op d = handle op c → s.rpc.runs d = 0 := by
  have none : (s.handles (handle op c)).hasResult = false ↔
      ∀ d, handle op d = handle op c → s.rpc.runs d = 0 := by
    rw [← Bool.not_eq_true, h.hasResult_iff]
    simp
  rw [← none]
  unfold outcome
  constructor
  · intro e
    by_contra hr
    rw [if_neg fun hn => hr hn.2] at e
    split at e
    · cases e
    · cases e
  · intro e
    rw [if_pos ⟨hc, e⟩]

/-! While results are not mixed up, no closure runs but behind the reply to its own call, or where
the send of that call has failed. -/

structure Tied (s : State κ ρ) : Prop where
  ran : ∀ c, s.rpc.runs c ≠ 0 → s.replied c = true ∨ s.phase c = .ended .sendFailed
  found : ∀ id c, s.rpc.reading = .populated id → s.rpc.pendingCalls_.lookup id = some c →
    s.replied c = true
  taken : ∀ c, s.rpc.reading.completion = some c → s.replied c = true

omit [DecidableEq κ] in
theorem init_tied : Tied (init : State κ ρ) where
  ran c h := absurd rfl h
  found id c h := by cases h
  taken c h := by cases h

theorem Tied.enter {s : State κ ρ} (h : Tied s) {c : κ} {p : Phase}
    (hc : s.phase c ≠ .ended .sendFailed) : Tied (s.enter c p) where
  ran d hd := by
    cases h.ran d hd with
    | inl replied => exact .inl replied
    | inr failed =>
      have other : d ≠ c := by
        rintro rfl
        exact hc failed
      exact .inr (by simpa [State.enter, other] using failed)
  found := h.found
  taken := h.taken

/-- Closures that run belong to answered calls, or to the one whose send has failed. -/
theorem Tied.complete {s : State κ ρ} (h : Tied s) {rpc : PendingCallCache.State κ ρ} {cs : List κ}
    (runs : ∀ c, rpc.runs c = s.rpc.runs c + cs.count c)
    (hcs : ∀ c ∈ cs, s.replied c = true ∨ s.phase c = .ended .sendFailed) {c : κ}
    (hc : rpc.runs c ≠ 0) : s.replied c = true ∨ s.phase c = .ended .sendFailed := by
  by_cases now : c ∈ cs
  · exact hcs c now
  · apply h.ran
    have := runs c
    rw [List.count_eq_zero.mpr now] at this
    omega

theorem Tied.rpc {op : κ → Operation} {s : State κ ρ} (h : Tied s)
    {b : PendingCallCache.Action κ ρ} {rpc : PendingCallCache.State κ ρ} (hb : permits op s b)
    (ha : Unmixed op s (.rpc b)) (hrpc : PendingCallCache.step s.rpc b = some rpc) :
    Tied { (s.follow b).notify op (PendingCallCache.closures s.rpc b) with rpc := rpc } := by
  have runs := PendingCallCache.step_runs hrpc
  cases PendingCallCache.step_cases hrpc with
  | readId | writeId | sendRaises | unknown => exact ⟨h.ran, h.found, h.taken⟩
  | save hc =>
    rename_i c id
    refine ⟨h.ran, fun i d hi hd => ?_, h.taken⟩
    have other : i ≠ id := by
      rintro rfl
      exact ha i hc hi
    rw [AList.lookup_insert_ne other] at hd
    exact h.found i d hi hd
  | send hc =>
    rename_i c id
    have calling : s.phase c = .calling := by simpa [permits] using hb
    have entered : Tied (s.enter c .waiting) := h.enter (by simp [calling])
    exact ⟨entered.ran, entered.found, entered.taken⟩
  | force hc =>
    rename_i c id
    have calling : s.phase c = .calling := by simpa [permits] using hb
    have entered : Tied (s.enter c (.ended .sendFailed)) := h.enter (by simp [calling])
    refine ⟨fun d hd => entered.complete runs ?_ hd, fun i d hi hd => by simp at hd, h.taken⟩
    -- what is completed has been answered, or is the call that fails
    intro d hd
    obtain ⟨i, hi⟩ := mem_values.mp hd
    cases ha i d hi with
    | inl failing => exact .inr (by simp [State.enter, failing])
    | inr populated => exact .inl (h.found i d populated hi)
  | populate hr hl =>
    rw [Unmixed, hl] at ha
    cases ha
  | take hr =>
    rename_i id
    exact ⟨h.ran, fun i d hi => (by cases hi), fun d hd => h.found id d hr hd⟩
  | complete hr =>
    rename_i id completion
    refine ⟨fun d hd => h.complete runs ?_ hd, fun i d hi => (by cases hi), fun d hd => (by cases hd)⟩
    intro d hd
    exact .inl (h.taken d (Option.mem_toList.mp hd))

theorem Tied.reply {op : κ → Operation} {s : State κ ρ} (h : Tied s) {c : κ} {id : UInt32}
    {result : ρ} {rpc : PendingCallCache.State κ ρ} (ha : Unmixed op s (.reply c result))
    (hc : (s.rpc.calling c).savedId = some id)
    (hrpc : PendingCallCache.step s.rpc (.populateMessageForResult id result) = some rpc) :
    Tied { s with rpc := rpc, replied := Function.update s.replied c true } := by
  have keeps (d : κ) (hd : s.replied d = true) : Function.update s.replied c true d = true := by
    by_cases hdc : d = c
    · simp [hdc]
    · simpa [hdc] using hd
  cases PendingCallCache.step_cases hrpc with
  | populate hr hl =>
    refine ⟨fun d hd => (h.ran d hd).imp_left (keeps d), fun i d hi hd => ?_, fun d hd => by cases hd⟩
    obtain rfl : id = i := by simpa using hi
    rw [ha id d hc hd]
    exact Function.update_self ..
  | unknown hr hl =>
    exact ⟨fun d hd => (h.ran d hd).imp_left (keeps d), fun i d hi hd => keeps d (h.found i d hi hd),
      fun d hd => keeps d (h.taken d hd)⟩

theorem step_tied {op : κ → Operation} {hasError : ρ → Bool} {s t : State κ ρ} {a : Action κ ρ}
    (h : Tied s) (ha : Unmixed op s a) (hs : step op hasError s a = some t) : Tied t := by
  cases step_cases hs with
  | setChannel | resetChannel => exact ⟨h.ran, h.found, h.taken⟩
  | refuse hc => exact h.enter (by simp [hc])
  | request hc =>
    rename_i c
    have entered : Tied (s.enter c .calling) := h.enter (by simp [hc])
    exact ⟨entered.ran, entered.found, entered.taken⟩
  | rpc hb hrpc => exact h.rpc hb ha hrpc
  | reply hc hrpc => exact h.reply ha hc hrpc
  | wake hc => exact h.enter (by simp [hc])
  | timeOut hc => exact h.enter (by simp [hc])
  | finish hc =>
    rename_i c w
    have entered : Tied (s.enter c (.ended (outcome op hasError s c))) := h.enter (by simp [hc])
    exact ⟨entered.ran, entered.found, entered.taken⟩

/-- An operation that ends behind its wait without its reply reports its timeout. -/
theorem Tied.times_out {op : κ → Operation} {hasError : ρ → Bool} {s t : State κ ρ} (h : Tied s)
    (hn : Counted op s) {c : κ} (ha : Unmixed op s (.finish c)) (hop : op c ≠ .stopContainer)
    (hs : step op hasError s (.finish c) = some t) (hc : s.replied c = false) :
    outcome op hasError s c = .timedOut := by
  cases step_cases hs with
  | finish hw =>
    rename_i w
    have unrun : s.rpc.runs c = 0 := by
      by_contra ran
      cases h.ran c ran with
      | inl replied =>
        rw [hc] at replied
        cases replied
      | inr failed =>
        rw [hw] at failed
        cases failed
    cases w with
    | false => exact absurd unrun (hn.woken c hw)
    | true => exact (hn.times_out hasError hop).mpr (ha hop hw unrun)

theorem step_own_reply {op : κ → Operation} {hasError : ρ → Bool} {s t : State κ ρ}
    {a : Action κ ρ} (hn : Counted op s) (tied : Tied s) (h : OwnReply op s) (ha : Unmixed op s a)
    (hs : step op hasError s a = some t) : OwnReply op t := by
  have unheard {c : κ} (hc : t.replied c = false) : s.replied c = false := by
    rw [← Bool.not_eq_true] at hc ⊢
    exact mt (step_replied hs) hc
  refine ⟨fun c hop hc => ?_, fun c o hop hc hr => ?_⟩
  · obtain e | e | e | ⟨e, ho⟩ := step_ended hs hc
    · exact step_replied hs (h.returned c hop e)
    · cases e
    · cases e
    · subst e
      by_contra unanswered
      rw [Bool.not_eq_true] at unanswered
      rw [tied.times_out hn ha hop hs (unheard unanswered)] at ho
      cases ho
  · obtain e | e | e | ⟨e, ho⟩ := step_ended hs hc
    · exact h.unanswered c o hop e (unheard hr)
    · exact .inr (.inr e)
    · exact .inr (.inl e)
    · subst e
      exact .inl (ho.trans (tied.times_out hn ha hop hs (unheard hr)))

/-- Over every history in which results are not mixed up, operations return normally only behind
their own replies. -/
theorem own_replies {op : κ → Operation} {hasError : ρ → Bool} {as : List (Action κ ρ)}
    (unmixed : Along (step op hasError) (Unmixed op) init as) :
    Always (step op hasError) (OwnReply op) (init : State κ ρ) as := by
  have kept : Always (step op hasError) (fun s => Counted op s ∧ Tied s ∧ OwnReply op s) init as := by
    apply always_of_along _ _ unmixed
    · intro s a t h ha hs
      exact ⟨step_counted h.1 hs, step_tied h.2.1 ha hs, step_own_reply h.1 h.2.1 h.2.2 ha hs⟩
    · exact ⟨init_counted op, init_tied, by simp [init], by simp [init]⟩
  exact kept.mono fun s h => h.2.2

/-- A result that the handle has kept from another call stands for the one that has not come. -/
theorem Counted.returns_unanswered {op : κ → Operation} {s : State κ ρ} (h : Counted op s)
    (hasError : ρ → Bool) {c d : κ} (hop : op c ≠ .stopContainer) (shared : handle op d = handle op c)
    (completed : s.rpc.runs d ≠ 0) (empty : s.rpc.response c = []) :
    outcome op hasError s c = .returned := by
  have result : outcome op hasError s c ≠ .timedOut := by
    intro e
    exact completed ((h.times_out hasError hop).mp e d shared)
  unfold outcome at result ⊢
  split_ifs at result ⊢ with late error
  · exact absurd rfl result
  · rw [empty] at error
    cases error
  · rfl

/-- The steps of an operation up to its wait. -/
def waitForReply (c : Nat) : List (Action Nat Unit) :=
  [.call c, .rpc (.readId c), .rpc (.writeId c), .rpc (.saveCompletionDetails c),
    .rpc (.send c)]

/-- The answer to a call is handled and its operation returns. -/
def answer (c : Nat) : List (Action Nat Unit) :=
  [.reply c (), .rpc .completeResponse, .rpc .complete, .wake c, .finish c]

/-- The first operation is a launch, and any later one removes a task. -/
def launchThenRemove (c : Nat) : Operation := if c = 0 then .launch else .removeTask

/-- The launch is answered, and the removal of a task is not. -/
theorem own_replies_removal : Always (step launchThenRemove fun _ => false)
    (OwnReply launchThenRemove) init
    (.setRpcChannel :: waitForReply 0 ++ answer 0 ++ waitForReply 1 ++
      [.timeOut 1, .finish 1]) := by
  apply own_replies
  apply along_cons rfl trivial
  apply along_cons rfl trivial
  apply along_cons rfl trivial
  apply along_cons rfl trivial
  refine along_cons rfl (fun id _ reading => by cases reading) ?_
  apply along_cons rfl trivial
  refine along_cons rfl (fun id d hid hd => ?_) ?_
  · obtain rfl : 0 = id := Option.some.inj hid
    exact (Option.some.inj hd).symm
  apply along_cons rfl trivial
  apply along_cons rfl trivial
  apply along_cons rfl trivial
  refine along_cons rfl (fun _ woken => by cases woken) ?_
  apply along_cons rfl trivial
  apply along_cons rfl trivial
  apply along_cons rfl trivial
  refine along_cons rfl (fun id _ reading => by cases reading) ?_
  apply along_cons rfl trivial
  apply along_cons rfl trivial
  refine along_cons rfl (fun _ _ _ d hd => ?_) trivial
  have removal : d ≠ 0 := by
    rintro rfl
    exact absurd hd (by decide)
  show 0 + [0].count d = 0
  rw [Nat.zero_add, List.count_eq_zero]
  simpa using removal

/-- A first launch is answered, and a second one is not. -/
def answeredOnce : List (Action Nat Unit) :=
  .setRpcChannel :: waitForReply 0 ++ answer 0 ++ waitForReply 1 ++ [.timeOut 1, .finish 1]

theorem unanswered_launch_returns :
    ∃ t, run (step (fun _ => .launch) fun _ => false) init answeredOnce = some t ∧
      t.phase 0 = .ended .returned ∧ t.phase 1 = .ended .returned ∧ t.replied 1 = false ∧
      ¬ OwnReply (fun _ => .launch) t := by
  refine ⟨_, rfl, by decide, by decide, by decide, fun h => ?_⟩
  exact absurd (h.returned 1 (by decide) (by decide)) (by decide)

end Anbox.Bridge.AndroidApiStub
