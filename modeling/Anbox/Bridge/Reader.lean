import Anbox.Framework.Run
import Anbox.Wm.MultiWindowManager

namespace Anbox.Bridge.Reader

open Anbox.Framework
open Anbox.Bridge.AndroidApiStub (Outcome Phase)
open Anbox.Wm
open Anbox.Wm.MultiWindowManager

/-- With each window that is updated stands what its creation comes to, should it be created. -/
structure WindowStateUpdateEvent where
  windows : List (WindowState × Created)
  removedWindows : List WindowState

/-- The packages that are removed, and those stored with their names. `stored` says that the launcher
storage does what it is asked to for them, should it be asked, and does not raise. -/
structure ApplicationListUpdateEvent where
  removedApplications : List (String × Bool)
  applications : List (String × String × Bool)

structure EventSequence where
  bootFinished : Bool
  windowStateUpdate : Option WindowStateUpdateEvent
  applicationListUpdate : Option ApplicationListUpdateEvent

/-- `malformed` is a call of one of the two methods with parameters that do not parse. -/
inductive Invocation where
  | setClipboardData (text : Option String)
  | getClipboardData
  | malformed
  | other

/-- What a frame carries. Events that do not parse are `none`. -/
inductive Message (κ : Type*) where
  | invocation (invocation : Invocation)
  | response (id : Option κ) (events : List (Option EventSequence))

/-- The call whose result it is. -/
def Message.answers {κ : Type*} : Message κ → Option κ
  | .response id _ => id
  | .invocation _ => none

/-- The events of the message being handled, and the messages behind it. -/
structure Todo (κ : Type*) where
  events : List (Option EventSequence)
  messages : List (Message κ)

/-- A call of `applyWindowStateUpdate` in its first loop, and what is to be done behind it. -/
structure Pass (κ : Type*) where
  update : Update
  updated : List (WindowState × Created)
  removed : List WindowState
  applicationListUpdate : Option ApplicationListUpdateEvent
  todo : Todo κ

/-- What the reading of the connection is at: a read is outstanding, or `processData` goes on, or
it waits inside `removeTask`, or an exception has left it. -/
inductive Activity (κ : Type*) where
  | reading
  | handling (todo : Todo κ)
  | updating (p : Pass κ)
  | waiting (c : κ) (window : WindowState) (p : Pass κ)
  | stopped

def Activity.stuck {κ : Type*} : Activity κ → Bool
  | .waiting _ _ _ | .stopped => true
  | .reading | .handling _ | .updating _ => false

/-- The messages that have been read and not handled. -/
def Activity.messages {κ : Type*} : Activity κ → List (Message κ)
  | .handling todo => todo.messages
  | .updating p | .waiting _ _ p => p.todo.messages
  | .reading | .stopped => []

/-- `incoming` are the messages no read has taken. `pending c` says that the cache of pending calls
has the call, `answered c` that the guest answered the operation while it waited, `delivered c` that
the closure of the call has run. -/
structure State (κ : Type*) where
  channel_ : Bool
  phase : κ → Phase
  pending : κ → Bool
  answered : κ → Bool
  delivered : κ → Bool
  incoming : List (Message κ)
  reader : Activity κ
  windows_ : Windows
  items_ : String → Option String
  ready_ : Bool
  clipboard : String
  replies : List String

def init {κ : Type*} (ws : Windows) (items : String → Option String) : State κ :=
  { channel_ := true, phase := fun _ => .idle, pending := fun _ => false
    answered := fun _ => false, delivered := fun _ => false, incoming := [], reader := .reading
    windows_ := ws, items_ := items, ready_ := false, clipboard := "", replies := [] }

/-- `handle` is the next step of `processData`; if that makes a call, this is `c`. `sent` says that
what an action sends goes out, and does not raise. -/
inductive Action (κ : Type*) where
  | resetRpcChannel
  | call (c : κ) (sent : Bool)
  | send (m : Message κ)
  | read (n : Nat)
  | handle (c : κ) (sent : Bool)
  | finish (c : κ) (error : Bool)
  | timeOut (c : κ) (hasResult : Bool)

/-! The database. An exception leaves what has been done so far. -/

def removeApplications (items : String → Option String) :
    List (String × Bool) → Except (String → Option String) (String → Option String)
  | [] => .ok items
  | (package, stored) :: rest =>
    if package = "" ∨ items package = none then removeApplications items rest
    else if stored then removeApplications (Function.update items package none) rest
    else .error items

def storeApplications (items : String → Option String) :
    List (String × String × Bool) → Except (String → Option String) (String → Option String)
  | [] => .ok items
  | (package, name, stored) :: rest =>
    if package = "" then storeApplications items rest
    else if stored then storeApplications (Function.update items package (some name)) rest
    else .error items

def handleApplicationListUpdateEvent (items : String → Option String)
    (event : ApplicationListUpdateEvent) :
    Except (String → Option String) (String → Option String) :=
  match removeApplications items event.removedApplications with
  | .ok items => storeApplications items event.applications
  | .error items => .error items

section

variable {κ : Type*} [DecidableEq κ]

namespace State

def enter (s : State κ) (c : κ) (p : Phase) : State κ :=
  { s with phase := Function.update s.phase c p }

def waits (s : State κ) (c : κ) : Prop := s.phase c = .waiting

instance (s : State κ) (c : κ) : Decidable (s.waits c) := inferInstanceAs (Decidable (_ = _))

/-- The message comes in; an answer is one to an operation that waits. -/
def arrive (s : State κ) (m : Message κ) : State κ :=
  { s with
    incoming := s.incoming ++ [m]
    answered := fun c => s.answered c || (decide (m.answers = some c) && decide (s.waits c)) }

/-- `notifyDisconnected`: all calls that are pending are completed. -/
def notifyDisconnected (s : State κ) : State κ :=
  { s with delivered := fun c => s.delivered c || s.pending c, pending := fun _ => false }

def handleBootFinishedEvent (s : State κ) : State κ := { s with ready_ := true }

/-- An empty text is not set, and the reply to a request for it says nothing. Behind a reply that
cannot be sent, nor the error instead of it, `processData` is left, and so it is by parameters that
do not parse. -/
def dispatch (s : State κ) (sent : Bool) (todo : Todo κ) : Invocation → State κ
  | .setClipboardData text =>
    let s := { s with clipboard := if text.getD "" = "" then s.clipboard else text.getD "" }
    if sent then { s with replies := s.replies ++ [""], reader := .handling todo }
    else { s with reader := .stopped }
  | .getClipboardData =>
    if sent then { s with replies := s.replies ++ [s.clipboard], reader := .handling todo }
    else { s with reader := .stopped }
  | .malformed => { s with reader := .stopped }
  | .other => { s with reader := .handling todo }

/-- The call is found, and its closure run. -/
def completeResponse (s : State κ) (c : κ) : State κ :=
  { s with
    delivered := Function.update s.delivered c true
    pending := Function.update s.pending c false }

/-- `at` raises for a result that no pending call has the id of. -/
def handleResult (s : State κ) (todo : Todo κ) : Option κ → State κ
  | none => { s with reader := .handling todo }
  | some c =>
    if s.pending c then { s.completeResponse c with reader := .handling todo }
    else { s with reader := .stopped }

/-- What a sequence of events asks for behind the update of the windows. -/
def finishEvents (s : State κ) (event : Option ApplicationListUpdateEvent) (todo : Todo κ) :
    State κ :=
  match event with
  | none => { s with reader := .handling todo }
  | some event =>
    match handleApplicationListUpdateEvent s.items_ event with
    | .ok items => { s with items_ := items, reader := .handling todo }
    | .error items => { s with items_ := items, reader := .stopped }

def processEventSequence (s : State κ) (seq : Option EventSequence) (todo : Todo κ) : State κ :=
  match seq with
  | none => { s with reader := .handling todo }
  | some seq =>
    let s := if seq.bootFinished then s.handleBootFinishedEvent else s
    match seq.windowStateUpdate with
    | none => s.finishEvents seq.applicationListUpdate todo
    | some event =>
      { s with
        reader := .updating ⟨.start s.windows_, event.windows, event.removedWindows,
          seq.applicationListUpdate, todo⟩ }

/-- The first loop goes on behind an entry, or is left with an exception. -/
def resume (s : State κ) (e : WindowState × Attempt) (p : Pass κ) : State κ :=
  match p.update.collect s.items_ e with
  | .ok u => { s with reader := .updating { p with update := u } }
  | .error u => { s with reader := .stopped, windows_ := u.windows_ }

/-- The windows of the entry's task are looked for, and one is created if there is none; behind a
null the guest is asked to remove the task, and its reply waited for. -/
def collect (s : State κ) (c : κ) (sent : Bool) (e : WindowState × Created) (p : Pass κ) :
    Option (State κ) :=
  if e.1.shown = true ∧ p.update.windows_.find e.1.task = none ∧ e.2 = .null ∧ s.channel_ = true then
    if s.phase c = .idle then
      if sent then
        some { s.enter c .waiting with
          pending := Function.update s.pending c true, reader := .waiting c e.1 p }
      else some ((s.enter c (.ended .sendFailed)).notifyDisconnected.resume (e.1, ⟨e.2, .sendFailed⟩) p)
    else none
  else some (s.resume (e.1, ⟨e.2, .notConnected⟩) p)

/-- The other loops, which call nothing. -/
def finishUpdate (s : State κ) (p : Pass κ) : State κ :=
  { s with windows_ := (p.removed.foldl Update.remove p.update.updateStates).windows_ }.finishEvents
    p.applicationListUpdate p.todo

def handle (s : State κ) (c : κ) (sent : Bool) : Option (State κ) :=
  match s.reader with
  | .handling ⟨[], []⟩ => some { s with reader := .reading }
  | .handling ⟨[], .invocation i :: ms⟩ => some (s.dispatch sent ⟨[], ms⟩ i)
  | .handling ⟨[], .response id es :: ms⟩ => some (s.handleResult ⟨es, ms⟩ id)
  | .handling ⟨e :: es, ms⟩ => some (s.processEventSequence e ⟨es, ms⟩)
  | .updating p =>
    match p.updated with
    | [] => some (s.finishUpdate p)
    | e :: es => s.collect c sent e { p with updated := es }
  | .reading | .waiting _ _ _ | .stopped => none

/-- An operation whose wait is over goes on; when it is the reader's, the reader does. -/
def leave (s : State κ) (c : κ) (o : Outcome) : State κ :=
  match s.reader with
  | .waiting d window p =>
    if d = c then (s.enter c (.ended o)).resume (window, ⟨.null, o⟩) p else s.enter c (.ended o)
  | .reading | .handling _ | .updating _ | .stopped => s.enter c (.ended o)

/-- The answer has been sent and not been handled. -/
def unread (s : State κ) (c : κ) : Prop :=
  ∃ m ∈ s.reader.messages ++ s.incoming, m.answers = some c

end State

def step (s : State κ) : Action κ → Option (State κ)
  | .resetRpcChannel => some { s with channel_ := false }
  | .call c sent =>
    if s.phase c = .idle ∧ s.channel_ = true then
      if sent then some { s.enter c .waiting with pending := Function.update s.pending c true }
      else some (s.enter c (.ended .sendFailed)).notifyDisconnected
    else none
  | .send m => some (s.arrive m)
  | .read n =>
    match s.reader with
    | .reading =>
      some { s with reader := .handling ⟨[], s.incoming.take n⟩, incoming := s.incoming.drop n }
    | _ => none
  | .handle c sent => s.handle c sent
  | .finish c error =>
    if s.waits c ∧ s.delivered c = true then
      some (s.leave c (if error then .remoteError else .returned))
    else none
  | .timeOut c hasResult =>
    if s.waits c ∧ s.delivered c = false then
      some (s.leave c (if hasResult then .returned else .timedOut))
    else none

/-- The reader does not wait for a reply that it would have to read itself, and no operation the
guest has answered is reported as timed out. -/
structure NeverWaits (s : State κ) : Prop where
  reader : ∀ c window p, s.reader ≠ .waiting c window p
  answered : ∀ c, s.answered c = true → s.phase c ≠ .ended .timedOut

/-- An answer is prompt: the time of the operation does not run out while the reader, if it goes on,
is still to come to it. -/
def Prompt (s : State κ) : Action κ → Prop
  | .timeOut c _ => s.answered c = true → s.unread c → s.reader.stuck = true
  | _ => True

/-- A window that has to be created is created, unless there is no platform. -/
def Creates (s : State κ) : Prop :=
  ∀ p e es, s.reader = .updating p → p.updated = e :: es → e.1.shown = true →
    p.update.windows_.find e.1.task = none → e.2 ≠ .null ∧ e.2 ≠ .raised

/-- The parameters of an invocation parse, and its reply goes out. -/
def Replies (s : State κ) (sent : Bool) : Prop :=
  ∀ i ms, s.reader = .handling ⟨[], .invocation i :: ms⟩ →
    i ≠ .malformed ∧ ∀ text, i = .setClipboardData text ∨ i = .getClipboardData → sent = true

/-- A result is for a call that is pending. -/
def Known (s : State κ) : Prop :=
  ∀ c es ms, s.reader = .handling ⟨[], .response (some c) es :: ms⟩ → s.pending c = true

/-- The launcher storage raises for no package of the event that has a name. -/
structure Stores (event : ApplicationListUpdateEvent) : Prop where
  removed : ∀ app ∈ event.removedApplications, app.1 ≠ "" → app.2 = true
  stored : ∀ app ∈ event.applications, app.1 ≠ "" → app.2.2 = true

/-- The event that the next step of the reader hands to the database. -/
def State.nextApplications (s : State κ) : Option ApplicationListUpdateEvent :=
  match s.reader with
  | .handling ⟨some seq :: _, _⟩ =>
    if seq.windowStateUpdate.isNone then seq.applicationListUpdate else none
  | .updating p => if p.updated.isEmpty then p.applicationListUpdate else none
  | .handling _ | .reading | .waiting _ _ _ | .stopped => none

/-- Nothing that is handled raises, and no task has to be removed. -/
structure Undisturbed (s : State κ) (sent : Bool) : Prop where
  creates : Creates s
  replies : Replies s sent
  known : Known s
  stores : ∀ event ∈ s.nextApplications, Stores event

def Quiet (s : State κ) : Action κ → Prop
  | .handle _ sent => Undisturbed s sent
  | _ => True

end

/-! What the handlers leave as it is. -/

variable {κ : Type*}

/-- The reader goes on in `t`, and nothing has happened to the operations since `s` but that answers
were delivered. -/
structure GoesOn (s t : State κ) : Prop where
  reader : t.reader.stuck = false
  phase : t.phase = s.phase
  answered : t.answered = s.answered
  kept : ∀ c, s.delivered c = true ∨ s.unread c → t.delivered c = true ∨ t.unread c

/-- The reader reads or handles what it has read. What the guest has answered is not timed out: the
answer has been delivered, or the reader will come to it. -/
structure Reads (s : State κ) : Prop where
  reader : s.reader.stuck = false
  fresh : ∀ c, s.phase c = .idle → s.answered c = false
  kept : ∀ c, s.waits c → s.answered c = true → s.delivered c = true ∨ s.unread c
  answered : ∀ c, s.answered c = true → s.phase c ≠ .ended .timedOut

theorem Reads.neverWaits {s : State κ} (h : Reads s) : NeverWaits s where
  reader := by
    intro c window p waiting
    have stuck := h.reader
    rw [waiting] at stuck
    cases stuck
  answered := h.answered

theorem Reads.goesOn {s t : State κ} (h : Reads s) (on : GoesOn s t) : Reads t where
  reader := on.reader
  fresh := by
    rw [on.phase, on.answered]
    exact h.fresh
  kept := by
    intro c waits answered
    apply on.kept
    apply h.kept
    · rwa [State.waits, on.phase] at waits
    · rwa [on.answered] at answered
  answered := by
    rw [on.phase, on.answered]
    exact h.answered

/-- Where no answer is taken up, the same ones are to be read. -/
theorem GoesOn.of_messages {s t : State κ} (reader : t.reader.stuck = false)
    (phase : t.phase = s.phase) (answered : t.answered = s.answered)
    (delivered : t.delivered = s.delivered)
    (messages : t.reader.messages ++ t.incoming = s.reader.messages ++ s.incoming) : GoesOn s t where
  reader := reader
  phase := phase
  answered := answered
  kept c h := by
    rw [delivered, State.unread, messages]
    exact h

theorem removeApplications_ok {items : String → Option String} {apps : List (String × Bool)}
    (h : ∀ app ∈ apps, app.1 ≠ "" → app.2 = true) : ∃ t, removeApplications items apps = .ok t := by
  induction apps generalizing items with
  | nil => exact ⟨items, rfl⟩
  | cons app apps ih =>
    obtain ⟨package, stored⟩ := app
    obtain ⟨here, later⟩ := List.forall_mem_cons.mp h
    rw [removeApplications]
    split_ifs with skipped raises
    · exact ih later
    · exact ih later
    · exact absurd (here fun unnamed => skipped (.inl unnamed)) raises

theorem storeApplications_ok {items : String → Option String} {apps : List (String × String × Bool)}
    (h : ∀ app ∈ apps, app.1 ≠ "" → app.2.2 = true) : ∃ t, storeApplications items apps = .ok t := by
  induction apps generalizing items with
  | nil => exact ⟨items, rfl⟩
  | cons app apps ih =>
    obtain ⟨package, name, stored⟩ := app
    obtain ⟨here, later⟩ := List.forall_mem_cons.mp h
    rw [storeApplications]
    split_ifs with unnamed raises
    · exact ih later
    · exact ih later
    · exact absurd (here unnamed) raises

theorem Stores.ok {event : ApplicationListUpdateEvent} (h : Stores event)
    (items : String → Option String) :
    ∃ t, handleApplicationListUpdateEvent items event = .ok t := by
  obtain ⟨removed, ok⟩ := @removeApplications_ok items _ h.removed
  rw [handleApplicationListUpdateEvent, ok]
  exact storeApplications_ok h.stored

namespace State

theorem finishEvents_goesOn (s : State κ) (event : Option ApplicationListUpdateEvent)
    (todo : Todo κ) (stores : ∀ e ∈ event, Stores e) (messages : s.reader.messages = todo.messages) :
    GoesOn s (s.finishEvents event todo) := by
  cases event with
  | none =>
    refine .of_messages rfl rfl rfl rfl ?_
    rw [messages]
    rfl
  | some event =>
    obtain ⟨items, ok⟩ := (stores event rfl).ok s.items_
    rw [finishEvents, ok]
    refine .of_messages rfl rfl rfl rfl ?_
    rw [messages]
    rfl

theorem processEventSequence_goesOn (s : State κ) {seq : Option EventSequence} {todo : Todo κ}
    (stores : ∀ q ∈ seq, q.windowStateUpdate = none → ∀ e ∈ q.applicationListUpdate, Stores e)
    (messages : s.reader.messages = todo.messages) :
    GoesOn s (s.processEventSequence seq todo) := by
  cases seq with
  | none =>
    refine .of_messages rfl rfl rfl rfl ?_
    rw [messages]
    rfl
  | some seq =>
    obtain ⟨bootFinished, update, applications⟩ := seq
    cases update with
    | none =>
      have h := finishEvents_goesOn (if bootFinished then s.handleBootFinishedEvent else s)
        applications todo (stores _ rfl rfl)
        (by cases bootFinished <;> exact messages)
      cases bootFinished with
      | true => exact ⟨h.reader, h.phase, h.answered, h.kept⟩
      | false => exact h
    | some event =>
      cases bootFinished with
      | true =>
        refine .of_messages rfl rfl rfl rfl ?_
        rw [messages]
        rfl
      | false =>
        refine .of_messages rfl rfl rfl rfl ?_
        rw [messages]
        rfl

/-- The first loop goes on behind an entry whose attempt, if it is made, does not raise. -/
theorem resume_goesOn (s : State κ) {e : WindowState × Attempt} {p : Pass κ}
    (h : e.1.shown = true → p.update.windows_.find e.1.task = none →
      e.2.created ≠ .null ∧ e.2.created ≠ .raised)
    (messages : s.reader.messages = p.todo.messages) : GoesOn s (s.resume e p) := by
  have returns (shown : e.1.shown = true) (none : p.update.windows_.find e.1.task = none) :
      Returns [e.2] := by
    have made := h shown none
    cases created : e.2.created with
    | noPlatform => exact .quiet (Or.inl created) .nil
    | window attached => exact .window _ (by rw [Attempt.gives, created])
    | null => exact absurd created made.1
    | raised => exact absurd created made.2
  have pass : ∃ u, p.update.collect s.items_ e = .ok u := collect_returns returns
  obtain ⟨u, hu⟩ := pass
  rw [resume, hu]
  refine .of_messages rfl rfl rfl rfl ?_
  rw [messages]
  rfl

/-- A message is handled: if it is a result, it is delivered. -/
theorem goesOn_of_handled {s t : State κ} (m : Message κ) (reader : t.reader.stuck = false)
    (phase : t.phase = s.phase) (answered : t.answered = s.answered)
    (incoming : t.incoming = s.incoming)
    (messages : s.reader.messages = m :: t.reader.messages)
    (delivered : ∀ c, s.delivered c = true ∨ m.answers = some c → t.delivered c = true) :
    GoesOn s t where
  reader := reader
  phase := phase
  answered := answered
  kept c h := by
    obtain before | ⟨m', there, answers⟩ := h
    · exact .inl (delivered c (.inl before))
    · rw [messages, List.cons_append, List.mem_cons] at there
      obtain rfl | there := there
      · exact .inl (delivered c (.inr answers))
      · exact .inr ⟨m', by rwa [incoming], answers⟩

theorem dispatch_goesOn (s : State κ) {sent : Bool} {i : Invocation} {ms : List (Message κ)}
    (hs : s.reader = .handling ⟨[], .invocation i :: ms⟩) (replies : Replies s sent) :
    GoesOn s (s.dispatch sent ⟨[], ms⟩ i) := by
  obtain ⟨parsed, out⟩ := replies i ms hs
  have messages : s.reader.messages = .invocation i :: ms := by rw [hs]; rfl
  have delivered (c : κ) (h : s.delivered c = true ∨ (Message.invocation i : Message κ).answers = some c) :
      s.delivered c = true := by
    obtain before | answers := h
    · exact before
    · cases answers
  cases i with
  | setClipboardData text =>
    obtain rfl := out text (.inl rfl)
    exact goesOn_of_handled _ rfl rfl rfl rfl messages delivered
  | getClipboardData =>
    obtain rfl := out none (.inr rfl)
    exact goesOn_of_handled _ rfl rfl rfl rfl messages delivered
  | malformed => exact absurd rfl parsed
  | other => exact goesOn_of_handled _ rfl rfl rfl rfl messages delivered

variable [DecidableEq κ]

theorem handleResult_goesOn (s : State κ) {id : Option κ} {es : List (Option EventSequence)}
    {ms : List (Message κ)} (hs : s.reader = .handling ⟨[], .response id es :: ms⟩) (known : Known s) :
    GoesOn s (s.handleResult ⟨es, ms⟩ id) := by
  have messages : s.reader.messages = .response id es :: ms := by rw [hs]; rfl
  cases id with
  | none =>
    refine goesOn_of_handled _ rfl rfl rfl rfl messages fun c h => ?_
    obtain before | answers := h
    · exact before
    · cases answers
  | some d =>
    rw [handleResult, if_pos (known d es ms hs)]
    refine goesOn_of_handled _ rfl rfl rfl rfl messages fun c h => ?_
    show Function.update s.delivered d true c = true
    by_cases hc : c = d
    · rw [hc, Function.update_self]
    · rw [Function.update_of_ne hc]
      obtain before | answers := h
      · exact before
      · exact absurd (Option.some.inj answers).symm hc

theorem collect_goesOn {s t : State κ} {c : κ} {sent : Bool} {e : WindowState × Created} {p : Pass κ}
    (creates : e.1.shown = true → p.update.windows_.find e.1.task = none →
      e.2 ≠ .null ∧ e.2 ≠ .raised)
    (messages : s.reader.messages = p.todo.messages) (h : s.collect c sent e p = some t) :
    GoesOn s t := by
  unfold collect at h
  split_ifs at h with call idle out
  · exact absurd call.2.2.1 (creates call.1 call.2.1).1
  · exact absurd call.2.2.1 (creates call.1 call.2.1).1
  · exact Option.some.inj h ▸ resume_goesOn s creates messages

theorem handle_goesOn {s t : State κ} {c : κ} {sent : Bool} (quiet : Undisturbed s sent)
    (h : s.handle c sent = some t) : GoesOn s t := by
  unfold handle at h
  split at h
  · rename_i hs
    refine Option.some.inj h ▸ .of_messages rfl rfl rfl rfl ?_
    rw [hs]
    rfl
  · rename_i i ms hs
    exact Option.some.inj h ▸ dispatch_goesOn s hs quiet.replies
  · rename_i id es ms hs
    exact Option.some.inj h ▸ handleResult_goesOn s hs quiet.known
  · rename_i seq es ms hs
    refine Option.some.inj h ▸ processEventSequence_goesOn s ?_ (by rw [hs]; rfl)
    rintro q ⟨⟩ update event there
    exact quiet.stores event (by simpa [nextApplications, hs, update] using there)
  · rename_i p hs
    split at h
    · rename_i updated
      have rest := finishEvents_goesOn
        { s with windows_ := (p.removed.foldl Update.remove p.update.updateStates).windows_ }
        p.applicationListUpdate p.todo
        (fun event there => quiet.stores event (by simpa [nextApplications, hs, updated] using there))
        (by rw [hs]; rfl)
      exact Option.some.inj h ▸ ⟨rest.reader, rest.phase, rest.answered, rest.kept⟩
    · rename_i e es updated
      exact collect_goesOn (p := { p with updated := es }) (quiet.creates p e es hs updated)
        (by rw [hs]; rfl) h
  · cases h
  · cases h
  · cases h

end State

variable [DecidableEq κ]

@[simp] theorem enter_phase_self (s : State κ) (c : κ) (p : Phase) : (s.enter c p).phase c = p :=
  Function.update_self ..

theorem enter_phase_of_ne (s : State κ) {c d : κ} (hd : d ≠ c) (p : Phase) :
    (s.enter c p).phase d = s.phase d := Function.update_of_ne hd ..

/-- The phase of an operation that has been called, or is called now, changes. -/
theorem Reads.enter {s : State κ} (h : Reads s) {c : κ} {p : Phase} (called : p ≠ .idle)
    (wait : p = .waiting → s.phase c = .idle)
    (prompt : p = .ended .timedOut → s.answered c = false) : Reads (s.enter c p) where
  reader := h.reader
  fresh := by
    intro d idle
    by_cases hd : d = c
    · subst hd
      rw [enter_phase_self] at idle
      exact absurd idle called
    · rw [enter_phase_of_ne s hd] at idle
      exact h.fresh d idle
  kept := by
    intro d waits answered
    by_cases hd : d = c
    · subst hd
      rw [State.waits, enter_phase_self] at waits
      have unanswered : (s.enter d p).answered d = false := h.fresh d (wait waits)
      rw [unanswered] at answered
      cases answered
    · rw [State.waits, enter_phase_of_ne s hd] at waits
      exact h.kept d waits answered
  answered := by
    intro d answered
    by_cases hd : d = c
    · subst hd
      rw [enter_phase_self]
      intro ended
      have unanswered : (s.enter d p).answered d = false := prompt ended
      rw [unanswered] at answered
      cases answered
    · rw [enter_phase_of_ne s hd]
      exact h.answered d answered

omit [DecidableEq κ] in
/-- What the cache of pending calls says is not part of it, but for what is delivered. -/
theorem Reads.deliver {s : State κ} (h : Reads s) (pending : κ → Bool) {delivered : κ → Bool}
    (more : ∀ c, s.delivered c = true → delivered c = true) :
    Reads { s with pending := pending, delivered := delivered } where
  reader := h.reader
  fresh := h.fresh
  kept c waits answered := (h.kept c waits answered).imp_left (more c)
  answered := h.answered

/-- An operation that ends while the reader goes on leaves the reader as it is. -/
theorem Reads.leave {s : State κ} (h : Reads s) (c : κ) {o : Outcome}
    (prompt : o = .timedOut → s.answered c = false) : Reads (s.leave c o) := by
  have enter : s.leave c o = s.enter c (.ended o) := by
    unfold State.leave
    split
    · rename_i waiting
      exact absurd waiting (h.neverWaits.reader _ _ _)
    all_goals rfl
  rw [enter]
  apply h.enter
  · simp
  · simp
  · exact fun ended => prompt (Phase.ended.inj ended)

theorem arrive_answered {s : State κ} {m : Message κ} {c : κ} :
    (s.arrive m).answered c = true ↔ s.answered c = true ∨ m.answers = some c ∧ s.waits c := by
  simp [State.arrive]

theorem Reads.arrive {s : State κ} (h : Reads s) (m : Message κ) : Reads (s.arrive m) where
  reader := h.reader
  fresh := by
    intro c idle
    rw [← Bool.not_eq_true, arrive_answered]
    rintro (before | now)
    · rw [h.fresh c idle] at before
      cases before
    · have waits : s.phase c = .waiting := now.2
      have idle : s.phase c = .idle := idle
      rw [waits] at idle
      cases idle
  kept := by
    intro c waits answered
    obtain before | now := arrive_answered.mp answered
    · obtain delivered | ⟨m', there, answers⟩ := h.kept c waits before
      · exact .inl delivered
      · refine .inr ⟨m', ?_, answers⟩
        show m' ∈ s.reader.messages ++ (s.incoming ++ [m])
        rw [← List.append_assoc]
        exact List.mem_append_left _ there
    · refine .inr ⟨m, ?_, now.1⟩
      show m ∈ s.reader.messages ++ (s.incoming ++ [m])
      simp
  answered := by
    intro c answered ended
    obtain before | now := arrive_answered.mp answered
    · exact h.answered c before ended
    · have waits : s.phase c = .waiting := now.2
      have ended : s.phase c = .ended .timedOut := ended
      rw [waits] at ended
      cases ended

theorem step_reads {s t : State κ} {a : Action κ} (h : Reads s) (prompt : Prompt s a)
    (quiet : Quiet s a) (ht : step s a = some t) : Reads t := by
  cases a with
  | resetRpcChannel => exact Option.some.inj ht ▸ ⟨h.reader, h.fresh, h.kept, h.answered⟩
  | call c sent =>
    simp only [step] at ht
    split_ifs at ht with ready out
    · have entered : Reads (s.enter c .waiting) := h.enter (by simp) (fun _ => ready.1) (by simp)
      exact Option.some.inj ht ▸ entered.deliver _ fun _ before => before
    · have entered : Reads (s.enter c (.ended .sendFailed)) := h.enter (by simp) (by simp) (by simp)
      refine Option.some.inj ht ▸ entered.deliver _ fun d before => ?_
      rw [before, Bool.true_or]
  | send m => exact Option.some.inj ht ▸ h.arrive m
  | read n =>
    simp only [step] at ht
    split at ht
    · rename_i hs
      refine Option.some.inj ht ▸ h.goesOn (.of_messages rfl rfl rfl rfl ?_)
      rw [hs]
      exact List.take_append_drop n s.incoming
    · cases ht
  | handle c sent => exact h.goesOn (State.handle_goesOn quiet ht)
  | finish c error =>
    simp only [step] at ht
    split_ifs at ht
    all_goals exact Option.some.inj ht ▸ h.leave c (by simp)
  | timeOut c hasResult =>
    have unanswered (late : s.waits c ∧ s.delivered c = false) : s.answered c = false := by
      by_contra answered
      rw [Bool.not_eq_false] at answered
      obtain delivered | unread := h.kept c late.1 answered
      · rw [late.2] at delivered
        cases delivered
      · have stuck := prompt answered unread
        rw [h.reader] at stuck
        cases stuck
    simp only [step] at ht
    split_ifs at ht with late
    all_goals exact Option.some.inj ht ▸ h.leave c fun _ => unanswered late

/-- The reader never waits for itself in a run in which every window that is to be created is and
nothing that is handled raises, and then no prompt answer comes too late. -/
theorem reader_never_waits {ws : Windows} {items : String → Option String} {as : List (Action κ)}
    (prompt : Along step Prompt (init ws items) as) (quiet : Along step Quiet (init ws items) as) :
    Always step NeverWaits (init ws items) as := by
  have start : Reads (κ := κ) (init ws items) := ⟨rfl, by simp [init], by simp [init], by simp [init]⟩
  have reads := always_of_along (fun _ _ _ h both => step_reads h both.1 both.2) start (prompt.and quiet)
  exact reads.mono fun _ h => h.neverWaits

/-- The reader is not blocked: a read returns, or the next step of `processData` can be taken. -/
theorem Reads.not_blocked {s : State κ} (h : Reads s) (c : κ) (quiet : Undisturbed s true) :
    ∃ t, step s (.read 1) = some t ∨ step s (.handle c true) = some t := by
  obtain ⟨reader, hs⟩ : ∃ reader, s.reader = reader := ⟨_, rfl⟩
  cases reader with
  | reading => exact ⟨_, .inl (by rw [step, hs])⟩
  | handling todo =>
    obtain ⟨events, messages⟩ := todo
    cases events with
    | cons e es => exact ⟨_, .inr (by rw [step, State.handle, hs])⟩
    | nil =>
      cases messages with
      | nil => exact ⟨_, .inr (by rw [step, State.handle, hs])⟩
      | cons m ms => cases m <;> exact ⟨_, .inr (by rw [step, State.handle, hs])⟩
  | updating p =>
    cases updated : p.updated with
    | nil => exact ⟨s.finishUpdate p, .inr (by simp only [step, State.handle, hs, updated])⟩
    | cons e es =>
      refine ⟨s.resume (e.1, ⟨e.2, .notConnected⟩) { p with updated := es }, .inr ?_⟩
      simp only [step, State.handle, hs, updated, State.collect]
      apply if_neg
      rintro ⟨shown, none, null, -⟩
      exact (quiet.creates p e es hs updated shown none).1 null
  | waiting d window p => exact absurd hs (h.neverWaits.reader d window p)
  | stopped =>
    have stuck := h.reader
    rw [hs] at stuck
    cases stuck

omit [DecidableEq κ] in
theorem Undisturbed.of_response {s : State κ} {id : Option κ} {es : List (Option EventSequence)}
    {ms : List (Message κ)} (hs : s.reader = .handling ⟨[], .response id es :: ms⟩)
    (known : ∀ c ∈ id, s.pending c = true) (sent : Bool) : Undisturbed s sent where
  creates p e es updating := by
    rw [hs] at updating
    cases updating
  replies i ms handling := by
    rw [hs] at handling
    cases handling
  known c es ms handling := by
    rw [hs] at handling
    cases handling
    exact known c rfl
  stores event there := by
    rw [State.nextApplications, hs] at there
    cases there

omit [DecidableEq κ] in
theorem Undisturbed.of_event {s : State κ} {seq : EventSequence} {es : List (Option EventSequence)}
    {ms : List (Message κ)} (hs : s.reader = .handling ⟨some seq :: es, ms⟩)
    (none : seq.applicationListUpdate = none) (sent : Bool) : Undisturbed s sent where
  creates p e es updating := by
    rw [hs] at updating
    cases updating
  replies i ms handling := by
    rw [hs] at handling
    cases handling
  known c es ms handling := by
    rw [hs] at handling
    cases handling
  stores event there := by
    simp [State.nextApplications, hs, none] at there

omit [DecidableEq κ] in
theorem Undisturbed.of_update {s : State κ} {p : Pass κ} (hs : s.reader = .updating p)
    (creates : ∀ e ∈ p.updated, e.2 ≠ .null ∧ e.2 ≠ .raised)
    (none : p.applicationListUpdate = none) (sent : Bool) : Undisturbed s sent where
  creates q e es updating updated _ _ := by
    rw [hs] at updating
    cases updating
    apply creates
    rw [updated]
    exact List.mem_cons_self
  replies i ms handling := by
    rw [hs] at handling
    cases handling
  known c es ms handling := by
    rw [hs] at handling
    cases handling
  stores event there := by
    simp [State.nextApplications, hs, none] at there

/-- An update with one window in the freeform stack, whose creation comes to `created`. -/
def oneWindow (created : Created) : EventSequence where
  bootFinished := false
  windowStateUpdate := some ⟨[(⟨true, ⟨0, 0, 640, 480⟩, "org.example", 1, .Freeform⟩, created)], []⟩
  applicationListUpdate := none

def update (created : Created) : Message Nat := .response none [some (oneWindow created)]

/-- A window is created and the answer behind the update delivered. -/
def createdAndAnswered : List (Action Nat) :=
  [.call 0 true, .send (update (.window true)), .send (.response (some 0) []), .read 2,
    .handle 1 true, .handle 1 true, .handle 1 true, .handle 1 true, .handle 1 true, .finish 0 false]

theorem reader_never_waits_created :
    Always step NeverWaits (init .empty fun _ => none) createdAndAnswered := by
  apply reader_never_waits
  · apply along_of_forall
    intro a there s
    cases a with
    | timeOut c hasResult => simp [createdAndAnswered] at there
    | _ => trivial
  · iterate 4 apply along_cons rfl trivial
    refine along_cons rfl (.of_response rfl nofun true) ?_
    refine along_cons rfl (.of_event rfl rfl true) ?_
    refine along_cons rfl (.of_update rfl ?_ rfl true) ?_
    · simp
    refine along_cons rfl (.of_update rfl ?_ rfl true) ?_
    · simp
    refine along_cons rfl (.of_response rfl ?_ true) ?_
    · intro c there
      cases there
      rfl
    exact along_cons rfl trivial trivial

/-- The window cannot be created. The guest removes the task when it is asked to, and its answer
stands unread until the time is up. -/
def unread : List (Action Nat) :=
  [.send (update .null), .read 1, .handle 0 true, .handle 0 true, .handle 0 true,
    .send (.response (some 0) []), .timeOut 0 false]

theorem answered_and_timed_out : ¬ ∀ as : List (Action Nat),
    Along step Prompt (init .empty fun _ => none) as →
      Always step NeverWaits (init .empty fun _ => none) as := by
  intro h
  obtain ⟨t, ht⟩ : ∃ t, run step (init .empty fun _ => none) unread = some t := ⟨_, rfl⟩
  have prompt : Along step Prompt (init .empty fun _ => none) unread := by
    iterate 6 apply along_cons rfl trivial
    exact along_cons rfl (fun _ _ => rfl) trivial
  have last := ((h unread prompt).last ht).answered 0
  obtain rfl := Option.some.inj ht
  exact last rfl rfl

end Anbox.Bridge.Reader
