import Anbox.Framework.Run
import Anbox.Framework.Table
import Mathlib.Logic.Function.Basic

namespace Anbox.Rpc.PendingCallCache

open Anbox.Framework

variable {κ ρ : Type*}

/-- How sending the invocation of a saved call goes. `failed` is the handler of `sendMessage`
in front of `notifyDisconnected`, `raised` is behind it. -/
inductive Sending where
  | sending
  | sent
  | failed
  | raised
  deriving DecidableEq

/-- Where a call of `call_method` stands on its thread. `counting` is inside `nextId`, which has
read the counter and not yet written it back. -/
inductive Calling where
  | idle
  | counting (id : UInt32)
  | numbered (id : UInt32)
  | saved (id : UInt32) (send : Sending)
  deriving DecidableEq

/-- The id under which the call has been saved in the cache. -/
def Calling.savedId : Calling → Option UInt32
  | .saved id _ => some id
  | _ => none

/-- Where the reading thread stands with one result: `populateMessageForResult` has returned,
or `completeResponse` has given its lock away. -/
inductive Reading (κ : Type*) where
  | idle
  | populated (id : UInt32)
  | completing (id : UInt32) (completion : Option κ)
  deriving DecidableEq

def Reading.id : Reading κ → Option UInt32
  | .idle => none
  | .populated id | .completing id _ => some id

def Reading.completion : Reading κ → Option κ
  | .completing _ completion => completion
  | _ => none

/-- The cache of one connection with the threads at work on it. A call `c` stands for its response
object and its closure: `response c` is what the object has been filled from, `runs c` how often
the closure has run, `arrived c` that a result with the id of the saved call has come in. -/
structure State (κ ρ : Type*) where
  nextMessageId : UInt32
  pendingCalls_ : AList fun _ : UInt32 => κ
  calling : κ → Calling
  reading : Reading κ
  response : κ → List (UInt32 × ρ)
  runs : κ → Nat
  arrived : κ → Bool

def init : State κ ρ :=
  { nextMessageId := 0, pendingCalls_ := ∅, calling := fun _ => .idle, reading := .idle,
    response := fun _ => [], runs := fun _ => 0, arrived := fun _ => false }

/-- What a thread does next. The counter is one for all channels of the process: a call that
takes an id and is never saved here belongs to another channel. -/
inductive Action (κ ρ : Type*) where
  | readId (c : κ)
  | writeId (c : κ)
  | saveCompletionDetails (c : κ)
  | send (c : κ)
  | sendRaises (c : κ)
  | forceCompletion (c : κ)
  | populateMessageForResult (id : UInt32) (result : ρ)
  | completeResponse
  | complete

variable [DecidableEq κ]

def State.enter (s : State κ ρ) (c : κ) (p : Calling) : State κ ρ :=
  { s with calling := Function.update s.calling c p }

/-- The closures of `cs` run. -/
def State.complete (s : State κ ρ) (cs : List κ) : State κ ρ :=
  { s with runs := fun c => s.runs c + cs.count c }

/-- A result with this id comes in, whichever request it answers. -/
def State.arrive (s : State κ ρ) (id : UInt32) : State κ ρ :=
  { s with arrived := fun c => s.arrived c || decide ((s.calling c).savedId = some id) }

def step (s : State κ ρ) : Action κ ρ → Option (State κ ρ)
  | .readId c =>
    if s.calling c = .idle then some (s.enter c (.counting s.nextMessageId)) else none
  | .writeId c =>
    match s.calling c with
    | .counting id => some { s.enter c (.numbered id) with nextMessageId := id + 1 }
    | _ => none
  | .saveCompletionDetails c =>
    match s.calling c with
    | .numbered id =>
      some { s.enter c (.saved id .sending) with pendingCalls_ := s.pendingCalls_.insert id c }
    | _ => none
  | .send c =>
    match s.calling c with
    | .saved id .sending => some (s.enter c (.saved id .sent))
    | _ => none
  | .sendRaises c =>
    match s.calling c with
    | .saved id .sending => some (s.enter c (.saved id .failed))
    | _ => none
  | .forceCompletion c =>
    -- notify_disconnected, under the mutex of the cache, and the exception goes on to the caller
    match s.calling c with
    | .saved id .failed =>
      some { (s.enter c (.saved id .raised)).complete (values s.pendingCalls_) with
        pendingCalls_ := ∅ }
    | _ => none
  | .populateMessageForResult id result =>
    match s.reading, s.pendingCalls_.lookup id with
    | .idle, some c =>
      some { s.arrive id with
        reading := .populated id
        response := Function.update s.response c (s.response c ++ [(id, result)]) }
    -- pending_calls_.at throws, and the reading thread leaves process_data
    | .idle, none => some (s.arrive id)
    | _, _ => none
  | .completeResponse =>
    match s.reading with
    | .populated id =>
      some { s with
        reading := .completing id (s.pendingCalls_.lookup id)
        pendingCalls_ := s.pendingCalls_.erase id }
    | _ => none
  | .complete =>
    match s.reading with
    | .completing _ completion =>
      some { s.complete completion.toList with reading := .idle }
    | _ => none

/-- The closures the action runs. -/
def closures (s : State κ ρ) : Action κ ρ → List κ
  | .forceCompletion _ => values s.pendingCalls_
  | .complete => s.reading.completion.toList
  | _ => []

/-- The action is one of a calling thread, not of the reading thread. -/
def isCaller : Action κ ρ → Bool
  | .populateMessageForResult _ _ | .completeResponse | .complete => false
  | _ => true

/-- The cache or the reading thread still has a call to complete. -/
def Pending (s : State κ ρ) (c : κ) : Prop :=
  (∃ id, s.pendingCalls_.lookup id = some c) ∨ s.reading.completion = some c

/-- The steps there are, each with what it finds and what it leaves. -/
inductive Step (s : State κ ρ) : Action κ ρ → State κ ρ → Prop where
  | readId {c : κ} (hc : s.calling c = .idle) :
      Step s (.readId c) (s.enter c (.counting s.nextMessageId))
  | writeId {c : κ} {id : UInt32} (hc : s.calling c = .counting id) :
      Step s (.writeId c) { s.enter c (.numbered id) with nextMessageId := id + 1 }
  | save {c : κ} {id : UInt32} (hc : s.calling c = .numbered id) :
      Step s (.saveCompletionDetails c) { s.enter c (.saved id .sending) with
        pendingCalls_ := s.pendingCalls_.insert id c }
  | send {c : κ} {id : UInt32} (hc : s.calling c = .saved id .sending) :
      Step s (.send c) (s.enter c (.saved id .sent))
  | sendRaises {c : κ} {id : UInt32} (hc : s.calling c = .saved id .sending) :
      Step s (.sendRaises c) (s.enter c (.saved id .failed))
  | force {c : κ} {id : UInt32} (hc : s.calling c = .saved id .failed) :
      Step s (.forceCompletion c)
        { (s.enter c (.saved id .raised)).complete (values s.pendingCalls_) with
          pendingCalls_ := ∅ }
  | populate {id : UInt32} {c : κ} {result : ρ} (hr : s.reading = .idle)
      (hl : s.pendingCalls_.lookup id = some c) :
      Step s (.populateMessageForResult id result) { s.arrive id with
        reading := .populated id
        response := Function.update s.response c (s.response c ++ [(id, result)]) }
  | unknown {id : UInt32} {result : ρ} (hr : s.reading = .idle)
      (hl : s.pendingCalls_.lookup id = none) :
      Step s (.populateMessageForResult id result) (s.arrive id)
  | take {id : UInt32} (hr : s.reading = .populated id) :
      Step s .completeResponse { s with
        reading := .completing id (s.pendingCalls_.lookup id)
        pendingCalls_ := s.pendingCalls_.erase id }
  | complete {id : UInt32} {completion : Option κ} (hr : s.reading = .completing id completion) :
      Step s .complete { s.complete completion.toList with reading := .idle }

theorem step_cases {s t : State κ ρ} {a : Action κ ρ} (h : step s a = some t) : Step s a t := by
  cases a with
  | readId c =>
    simp only [step] at h
    split at h
    · rename_i hc
      exact Option.some.inj h ▸ .readId hc
    · cases h
  | writeId c =>
    simp only [step] at h
    split at h
    · rename_i id hc
      exact Option.some.inj h ▸ .writeId hc
    · cases h
  | saveCompletionDetails c =>
    simp only [step] at h
    split at h
    · rename_i id hc
      exact Option.some.inj h ▸ .save hc
    · cases h
  | send c =>
    simp only [step] at h
    split at h
    · rename_i id hc
      exact Option.some.inj h ▸ .send hc
    · cases h
  | sendRaises c =>
    simp only [step] at h
    split at h
    · rename_i id hc
      exact Option.some.inj h ▸ .sendRaises hc
    · cases h
  | forceCompletion c =>
    simp only [step] at h
    split at h
    · rename_i id hc
      exact Option.some.inj h ▸ .force hc
    · cases h
  | populateMessageForResult id result =>
    simp only [step] at h
    split at h
    · rename_i c hr hl
      exact Option.some.inj h ▸ .populate hr hl
    · rename_i hr hl
      exact Option.some.inj h ▸ .unknown hr hl
    · cases h
  | completeResponse =>
    simp only [step] at h
    split at h
    · rename_i id hr
      exact Option.some.inj h ▸ .take hr
    · cases h
  | complete =>
    simp only [step] at h
    split at h
    · rename_i id completion hr
      exact Option.some.inj h ▸ .complete hr
    · cases h

theorem step_runs {s t : State κ ρ} {a : Action κ ρ} (h : step s a = some t) (c : κ) :
    t.runs c = s.runs c + (closures s a).count c := by
  cases step_cases h with
  | complete hr => simp [closures, hr, State.complete, Reading.completion]
  | _ => rfl

/-- The calling threads leave the result in hand to the reading thread. -/
theorem caller_reading {s t : State κ ρ} {a : Action κ ρ} (h : step s a = some t)
    (ha : isCaller a) : t.reading = s.reading := by
  cases step_cases h with
  | populate | unknown | take | complete => cases ha
  | _ => rfl

theorem step_arrived {s t : State κ ρ} {a : Action κ ρ} (h : step s a = some t) {c : κ}
    (hc : s.arrived c) : t.arrived c := by
  cases step_cases h with
  | populate | unknown => simp [State.arrive, hc]
  | _ => exact hc

theorem savedId_enter (s : State κ ρ) {c : κ} {p : Calling}
    (same : p.savedId = (s.calling c).savedId) (d : κ) :
    ((s.enter c p).calling d).savedId = (s.calling d).savedId := by
  by_cases hd : d = c
  · subst d
    simpa [State.enter] using same
  · simp [State.enter, hd]

theorem step_savedId {s t : State κ ρ} {a : Action κ ρ} (h : step s a = some t) {c : κ}
    (hc : (t.calling c).savedId ≠ none) :
    (s.calling c).savedId ≠ none ∨ a = .saveCompletionDetails c := by
  cases step_cases h with
  | save hd =>
    rename_i d id
    by_cases hcd : c = d
    · exact .inr (by rw [hcd])
    · exact .inl (by simpa [State.enter, hcd] using hc)
  | readId hd | writeId hd | send hd | sendRaises hd | force hd =>
    left
    intro none
    apply hc
    rw [← none]
    exact savedId_enter s (by rw [hd]; rfl) c
  | _ => exact .inl hc

/-- A call is pending from its save on, until it is completed. -/
theorem step_pending {s t : State κ ρ} {a : Action κ ρ} (h : step s a = some t) {c : κ}
    (hc : Pending t c) : Pending s c ∨ a = .saveCompletionDetails c := by
  cases step_cases h with
  | save hd =>
    rename_i d id
    cases hc with
    | inl hc =>
      obtain ⟨i, hi⟩ := hc
      by_cases hid : i = id
      · subst i
        exact .inr (by rw [Option.some.inj ((AList.lookup_insert _).symm.trans hi)])
      · exact .inl (.inl ⟨i, (AList.lookup_insert_ne hid).symm.trans hi⟩)
    | inr hc => exact .inl (.inr hc)
  | force hd =>
    cases hc with
    | inl hc =>
      obtain ⟨i, hi⟩ := hc
      simp at hi
    | inr hc => exact .inl (.inr hc)
  | take hr =>
    rename_i id
    cases hc with
    | inl hc =>
      obtain ⟨i, hi⟩ := hc
      by_cases hid : i = id
      · subst i
        simp at hi
      · exact .inl (.inl ⟨i, (AList.lookup_erase_ne hid).symm.trans hi⟩)
    | inr hc => exact .inl (.inl ⟨id, hc⟩)
  | populate | complete =>
    cases hc with
    | inl hc => exact .inl (.inl hc)
    | inr hc => cases hc
  | _ => exact .inl hc

/-- Only a save puts an entry into an empty cache. -/
theorem step_empty {s t : State κ ρ} {a : Action κ ρ} (h : step s a = some t)
    (none : s.pendingCalls_ = ∅) :
    t.pendingCalls_ = ∅ ∨ ∃ c, a = .saveCompletionDetails c := by
  cases step_cases h with
  | save hd => exact .inr ⟨_, rfl⟩
  | force hd => exact .inl rfl
  | take hr =>
    rename_i id
    left
    rw [eq_empty_iff] at none ⊢
    intro i
    by_cases hi : i = id
    · rw [hi, AList.lookup_erase]
    · rw [AList.lookup_erase_ne hi, none i]
  | _ => exact .inl none

theorem force_empty {s t : State κ ρ} {c : κ} (h : step s (.forceCompletion c) = some t) :
    t.pendingCalls_ = ∅ := by
  cases step_cases h with
  | force hd => rfl

/-- Behind `notifyDisconnected` only the call that the reading thread completes is pending. -/
theorem force_pending {s t : State κ ρ} {c d : κ} (h : step s (.forceCompletion d) = some t) :
    Pending t c ↔ s.reading.completion = some c := by
  have hr : t.reading = s.reading := caller_reading h rfl
  rw [Pending, hr, force_empty h]
  simp

theorem save_not_empty {s t : State κ ρ} {c : κ}
    (h : step s (.saveCompletionDetails c) = some t) : t.pendingCalls_ ≠ ∅ := by
  cases step_cases h with
  | save hd =>
    rename_i id
    intro none
    have e := eq_empty_iff.mp none id
    simp at e

/-! What an entry of the cache is, whatever ids the calls have got: its call has been saved under
that id, has not seen its send raise, and nothing else is about to complete it. -/

structure Linked (s : State κ ρ) : Prop where
  entry : ∀ id c, s.pendingCalls_.lookup id = some c →
    (s.calling c).savedId = some id ∧ s.calling c ≠ .saved id .raised ∧ s.runs c = 0 ∧
      s.reading.completion ≠ some c
  held : ∀ c, s.reading.completion = some c →
    ∃ id, s.reading.id = some id ∧ (s.calling c).savedId = some id ∧ s.runs c = 0
  once : ∀ c, s.runs c ≤ 1
  ran : ∀ c, (s.calling c).savedId = none → s.runs c = 0
  filled : ∀ c, ∀ r ∈ s.response c, (s.calling c).savedId = some r.1

omit [DecidableEq κ] in
theorem init_linked : Linked (init : State κ ρ) where
  entry id c h := by simp [init] at h
  held c h := by simp [init, Reading.completion] at h
  once c := Nat.zero_le 1
  ran c _ := rfl
  filled c r h := by simp [init] at h

omit [DecidableEq κ] in
theorem Linked.values_nodup {s : State κ ρ} (h : Linked s) : (values s.pendingCalls_).Nodup := by
  apply Framework.values_nodup fun c => (s.calling c).savedId
  intro id c hc
  exact (h.entry id c hc).1

omit [DecidableEq κ] in
/-- A closure about to run belongs to a saved call and has not run. -/
theorem Linked.closures_fresh {s : State κ ρ} (h : Linked s) {a : Action κ ρ} {c : κ}
    (hc : c ∈ closures s a) : (s.calling c).savedId ≠ none ∧ s.runs c = 0 := by
  cases a with
  | forceCompletion d =>
    obtain ⟨id, hid⟩ := mem_values.mp hc
    obtain ⟨e₁, -, e₃, -⟩ := h.entry id c hid
    exact ⟨by simp [e₁], e₃⟩
  | complete =>
    obtain ⟨id, -, e₂, e₃⟩ := h.held c (Option.mem_toList.mp hc)
    exact ⟨by simp [e₂], e₃⟩
  | _ => simp [closures] at hc

omit [DecidableEq κ] in
theorem Linked.closures_nodup {s : State κ ρ} (h : Linked s) (a : Action κ ρ) :
    (closures s a).Nodup := by
  cases a with
  | forceCompletion d => exact h.values_nodup
  | complete => exact Option.toList_nodup _
  | _ => exact List.nodup_nil

theorem complete_of_notMem (s : State κ ρ) {cs : List κ} {c : κ} (hc : c ∉ cs) :
    (s.complete cs).runs c = s.runs c := by
  show s.runs c + cs.count c = s.runs c
  rw [List.count_eq_zero.mpr hc, Nat.add_zero]

/-- Closures that have not run before run once. -/
theorem Linked.complete_runs {s : State κ ρ} (h : Linked s) (a : Action κ ρ) (c : κ) :
    (s.complete (closures s a)).runs c ≤ 1 ∧
      ((s.calling c).savedId = none → (s.complete (closures s a)).runs c = 0) := by
  by_cases hc : c ∈ closures s a
  · obtain ⟨saved, unrun⟩ := h.closures_fresh hc
    have once : (closures s a).count c ≤ 1 := List.nodup_iff_count_le_one.mp (h.closures_nodup a) c
    refine ⟨?_, fun none => absurd none saved⟩
    show s.runs c + (closures s a).count c ≤ 1
    omega
  · rw [complete_of_notMem s hc]
    exact ⟨h.once c, h.ran c⟩

theorem Linked.enter {s : State κ ρ} (h : Linked s) {c : κ} {p : Calling}
    (same : p.savedId = (s.calling c).savedId) (hr : ∀ id, p ≠ .saved id .raised) (n : UInt32) :
    Linked { s.enter c p with nextMessageId := n } := by
  have ids := savedId_enter s same
  refine ⟨fun id d hd => ?_, fun d hd => ?_, h.once, fun d hd => ?_, fun d r hd => ?_⟩
  · obtain ⟨e₁, e₂, e₃, e₄⟩ := h.entry id d hd
    refine ⟨(ids d).trans e₁, ?_, e₃, e₄⟩
    by_cases hdc : d = c
    · subst d
      simpa [State.enter] using hr id
    · simpa [State.enter, hdc] using e₂
  · obtain ⟨id, e₁, e₂, e₃⟩ := h.held d hd
    exact ⟨id, e₁, (ids d).trans e₂, e₃⟩
  · exact h.ran d ((ids d).symm.trans hd)
  · exact (ids d).trans (h.filled d r hd)

theorem Linked.save {s : State κ ρ} (h : Linked s) {c : κ} {id : UInt32}
    (hc : s.calling c = .numbered id) :
    Linked { s.enter c (.saved id .sending) with
      pendingCalls_ := s.pendingCalls_.insert id c } := by
  have unsaved : (s.calling c).savedId = none := by rw [hc]; rfl
  have other (d : κ) (i : UInt32) (hd : (s.calling d).savedId = some i) : d ≠ c := by
    rintro rfl
    simp [unsaved] at hd
  have free : s.reading.completion ≠ some c := by
    intro hd
    obtain ⟨i, -, e, -⟩ := h.held c hd
    simp [unsaved] at e
  refine ⟨fun i d hd => ?_, fun d hd => ?_, h.once, fun d hd => ?_, fun d r hd => ?_⟩
  · by_cases hi : i = id
    · subst i
      obtain rfl : c = d := by simpa using hd
      exact ⟨by simp [State.enter, Calling.savedId], by simp [State.enter], h.ran c unsaved, free⟩
    · rw [AList.lookup_insert_ne hi] at hd
      obtain ⟨e₁, e₂, e₃, e₄⟩ := h.entry i d hd
      have hdc := other d i e₁
      exact ⟨by simpa [State.enter, hdc] using e₁, by simpa [State.enter, hdc] using e₂, e₃, e₄⟩
  · obtain ⟨i, e₁, e₂, e₃⟩ := h.held d hd
    exact ⟨i, e₁, by simpa [State.enter, other d i e₂] using e₂, e₃⟩
  · apply h.ran d
    by_cases hdc : d = c
    · exact hdc ▸ unsaved
    · simpa [State.enter, hdc] using hd
  · have e := h.filled d r hd
    simpa [State.enter, other d r.1 e] using e

/-- notify_disconnected runs the closure of every entry once and leaves none behind. -/
theorem Linked.force {s : State κ ρ} (h : Linked s) {c : κ} {id : UInt32}
    (hc : s.calling c = .saved id .failed) :
    Linked { (s.enter c (.saved id .raised)).complete (values s.pendingCalls_) with
      pendingCalls_ := ∅ } := by
  have ids := savedId_enter s (c := c) (p := .saved id .raised) (by rw [hc]; rfl)
  have runs := h.complete_runs (.forceCompletion c)
  refine ⟨fun i d hd => ?_, fun d hd => ?_, fun d => (runs d).1, fun d hd => ?_, fun d r hd => ?_⟩
  · simp at hd
  · obtain ⟨i, e₁, e₂, e₃⟩ := h.held d hd
    refine ⟨i, e₁, (ids d).trans e₂, ?_⟩
    have free : d ∉ values s.pendingCalls_ := by
      intro hm
      obtain ⟨j, hj⟩ := mem_values.mp hm
      exact (h.entry j d hj).2.2.2 hd
    exact (complete_of_notMem s free).trans e₃
  · exact (runs d).2 ((ids d).symm.trans hd)
  · exact (ids d).trans (h.filled d r hd)

omit [DecidableEq κ] in
theorem Linked.arrive {s : State κ ρ} (h : Linked s) (id : UInt32) : Linked (s.arrive id) :=
  ⟨h.entry, h.held, h.once, h.ran, h.filled⟩

theorem Linked.populate {s : State κ ρ} (h : Linked s) {id : UInt32} {c : κ} (result : ρ)
    (hl : s.pendingCalls_.lookup id = some c) :
    Linked { s.arrive id with
      reading := .populated id
      response := Function.update s.response c (s.response c ++ [(id, result)]) } := by
  refine ⟨fun i d hd => ?_, fun d hd => ?_, h.once, h.ran, fun d r hd => ?_⟩
  · obtain ⟨e₁, e₂, e₃, -⟩ := h.entry i d hd
    exact ⟨e₁, e₂, e₃, by simp [Reading.completion]⟩
  · simp [Reading.completion] at hd
  · by_cases hdc : d = c
    · subst d
      simp only [Function.update_self, List.mem_append, List.mem_singleton] at hd
      rcases hd with hd | rfl
      · exact h.filled c r hd
      · exact (h.entry id c hl).1
    · simp only [Function.update_of_ne hdc] at hd
      exact h.filled d r hd

omit [DecidableEq κ] in
theorem Linked.take {s : State κ ρ} (h : Linked s) {id : UInt32} :
    Linked { s with
      reading := .completing id (s.pendingCalls_.lookup id)
      pendingCalls_ := s.pendingCalls_.erase id } := by
  refine ⟨fun i d hd => ?_, fun d hd => ?_, h.once, h.ran, h.filled⟩
  · have hi : i ≠ id := by
      rintro rfl
      simp at hd
    rw [AList.lookup_erase_ne hi] at hd
    obtain ⟨e₁, e₂, e₃, -⟩ := h.entry i d hd
    refine ⟨e₁, e₂, e₃, fun hc => hi ?_⟩
    have e := (h.entry id d hc).1
    exact Option.some.inj (e₁.symm.trans e)
  · obtain ⟨e₁, -, e₃, -⟩ := h.entry id d hd
    exact ⟨id, rfl, e₁, e₃⟩

theorem Linked.complete {s : State κ ρ} (h : Linked s) {id : UInt32} {completion : Option κ}
    (hr : s.reading = .completing id completion) :
    Linked { s.complete completion.toList with reading := .idle } := by
  have held : s.reading.completion = completion := by rw [hr]; rfl
  have runs := h.complete_runs .complete
  rw [closures, held] at runs
  refine ⟨fun i d hd => ?_, fun d hd => ?_, fun d => (runs d).1, fun d hd => ?_, h.filled⟩
  · obtain ⟨e₁, e₂, e₃, e₄⟩ := h.entry i d hd
    have free : d ∉ completion.toList := by
      intro hm
      exact e₄ (held.trans (Option.mem_toList.mp hm))
    exact ⟨e₁, e₂, (complete_of_notMem s free).trans e₃, by simp [Reading.completion]⟩
  · cases hd
  · exact (runs d).2 hd

theorem step_linked {s t : State κ ρ} {a : Action κ ρ} (h : Linked s) (hs : step s a = some t) :
    Linked t := by
  cases step_cases hs with
  | readId hc => exact h.enter (by rw [hc]; rfl) (by simp) s.nextMessageId
  | writeId hc => exact h.enter (by rw [hc]; rfl) (by simp) _
  | save hc => exact h.save hc
  | send hc => exact h.enter (by rw [hc]; rfl) (by simp) s.nextMessageId
  | sendRaises hc => exact h.enter (by rw [hc]; rfl) (by simp) s.nextMessageId
  | force hc => exact h.force hc
  | populate hr hl => exact h.populate _ hl
  | unknown hr hl => exact h.arrive _
  | take hr => exact h.take
  | complete hr => exact h.complete hr

theorem run_linked {s : State κ ρ} {as : List (Action κ ρ)} (h : run step init as = some s) :
    Linked s := by
  have along : Along step (fun _ _ => True) (init : State κ ρ) as :=
    along_of_forall (fun _ _ _ => trivial) init
  exact invariant_run (fun _ _ _ hl _ hs => step_linked hl hs) init_linked along h

omit [DecidableEq κ] in
theorem Linked.pending_unrun {s : State κ ρ} (h : Linked s) {c : κ} (hc : Pending s c) :
    s.runs c = 0 := by
  rcases hc with ⟨id, hid⟩ | hc
  · exact (h.entry id c hid).2.2.1
  · obtain ⟨id, -, -, e⟩ := h.held c hc
    exact e

end Anbox.Rpc.PendingCallCache
