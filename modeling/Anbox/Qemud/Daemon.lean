import Anbox.Framework.Run
import Anbox.Qemud.FdHandler
import Anbox.Qemud.Multiplexer

namespace Anbox.Qemud.Daemon

open Anbox.Framework
open Anbox.Qemud.FdHandler (Receiver FDHandler)
open Anbox.Qemud.Multiplexer (Client Control control hex2int findClient openChannel text Short
  MAX_PAYLOAD)

/-- The handler of a client, by the client's number and the length of its queue. -/
structure Handler where
  id : Nat
  closing : Bool
  receiver : Receiver
  out : Nat
  deriving DecidableEq

/-- Whose descriptor it is. -/
inductive Source where
  | serial
  | control
  | client (i : Nat)
  deriving DecidableEq

/-- The flags of an event, in the order in which they are handled. An error counts as a hang-up. -/
structure Events where
  epollin : Bool
  epollhup : Bool
  epollout : Bool
  deriving DecidableEq

/-- `handlers` are those of the clients that are not freed; the handlers of the serial port and of the
control socket are always there. `hooks` are the handlers for which the looper has a hook, `due` the
events of the round that it has still to deliver, and `serving` what is left of the one being
handled. -/
structure State where
  mult : Multiplexer.State
  handlers : List Handler
  hooks : List Nat
  due : List (Source × Events)
  serving : Option (Source × Events)
  deriving DecidableEq

def init : State where
  mult := Multiplexer.init
  handlers := []
  hooks := []
  due := []
  serving := none

/-! Handlers. -/

def Handler.enqueue (h : Handler) : Handler := { h with out := h.out + 1 }

def Handler.shut (h : Handler) (closing : Bool) : Handler :=
  { h with
    receiver := { h.receiver with close := false }
    closing := closing }

/-- Something was written, perhaps the end of a packet. -/
def Handler.wrote (h : Handler) (whole : Bool) : Handler :=
  { h with out := if whole then h.out - 1 else h.out }

variable (s : State)

def handler (i : Nat) : Option Handler := s.handlers.find? fun h => h.id = i

def change (i : Nat) (f : Handler → Handler) : State :=
  { s with handlers := s.handlers.map fun h => if h.id = i then f h else h }

/-- The handler is taken from its list and from the looper, and freed. -/
def remove (i : Nat) : State :=
  { s with
    handlers := s.handlers.filter fun h => h.id ≠ i
    hooks := s.hooks.filter fun j => j ≠ i }

def fdhandlerClose (h : Handler) : Option State :=
  if h.receiver.close then
    (Multiplexer.clientFdClose s.mult h.id).map fun m => remove { s with mult := m } h.id
  else some (remove s h.id)

/-- There is no state behind a step on a handler that is gone. -/
def fdhandlerShutdown (i : Nat) : Option State :=
  (handler s i).bind fun h =>
    if 0 < h.out ∧ h.closing = false then some (change s i fun h => h.shut true)
    else fdhandlerClose s (h.shut h.closing)

def fdhandlerEnqueue (i : Nat) : Option State :=
  (handler s i).map fun _ => change s i Handler.enqueue

/-! Clients. -/

def clientNew : State :=
  { s with
    mult := Multiplexer.clientNew s.mult
    handlers :=
      { id := s.mult.connections, closing := false, receiver := ⟨true, true⟩, out := 0 } :: s.handlers
    hooks := s.mult.connections :: s.hooks }

def clientFree (i : Nat) : Option State :=
  fdhandlerShutdown { s with mult := Multiplexer.clientFree s.mult i } i

def clientRegistration (i : Nat) (registered : Bool) : Option State :=
  (fdhandlerEnqueue s i).map fun s =>
    { s with mult := Multiplexer.modify s.mult i fun c => c.registration registered }

def clientSend (i : Nat) (data : List UInt8) : Option State :=
  (fdhandlerEnqueue s i).map fun s => { s with mult := Multiplexer.clientSend s.mult i data }

def clientFdReceive (i : Nat) (data : List UInt8) : Option State :=
  match Multiplexer.client s.mult i with
  | none => none
  | some c =>
    if c.registered then some { s with mult := Multiplexer.serialSend s.mult c.channel data }
    else if c.channel > 0 then clientFree s i
    else
      match openChannel s.mult data with
      | none => none
      | some (channel, m) =>
        if channel < 0 then clientFree { s with mult := m } i
        else some { s with mult := Multiplexer.modify m i fun c => { c with channel := channel } }

/-- `multiplexer_handle_control`. -/
def handleControl (data : List UInt8) : Option State :=
  match control data with
  | none => some s
  | some kind =>
    match findClient s.mult (hex2int (data.drop 11)) with
    | none => some s
    | some c =>
      match kind with
      | .okConnect => clientRegistration s c.id true
      | .koConnect => clientRegistration s c.id false
      | .disconnect => clientFree s c.id

/-- `multiplexer_serial_receive`. -/
def serialReceive (channel : Nat) (data : List UInt8) : Option State :=
  if channel = 0 then handleControl s data
  else
    match findClient s.mult channel with
    | some c => clientSend s c.id data
    | none => some s

/-! Events. -/

def hooked : Source → Bool
  | .serial | .control => true
  | .client i => i ∈ s.hooks

def present : Source → Bool
  | .serial | .control => true
  | .client i => (handler s i).isSome

/-- A flag is still to be handled. -/
def Events.any (e : Events) : Bool := e.epollin || e.epollhup || e.epollout

def serve (w : Source) (e : Events) : State := { s with serving := some (w, e) }

/-- `wait` is a round of the looper, `dispatch` the call of a hook. What the serial port delivers are
packets, `packet` each, `receive` is what a client's descriptor delivers, and `pass` a read that
delivers nothing, or no more. `refuse` is a failing accept. -/
inductive Action where
  | wait (ready : List (Source × Events))
  | dispatch
  | packet (channel : Nat) (data : List UInt8)
  | receive (data : List UInt8)
  | pass
  | accept
  | refuse
  | hangUp
  | write (whole : Bool)
  | return

/-- `EPOLLIN`. -/
def stepIn (w : Source) (e : Events) : Action → Option State
  | .packet channel data => if w = .serial then serialReceive s channel data else none
  | .receive data =>
    match w with
    | .client i =>
      if 0 < data.length ∧ data.length ≤ MAX_PAYLOAD then
        (handler s i).bind fun h =>
          if h.receiver.post then clientFdReceive (serve s w { e with epollin := false }) i data
          else some (serve s w { e with epollin := false })
      else none
    | _ => none
  | .pass => if w ≠ .control ∧ present s w then some (serve s w { e with epollin := false }) else none
  | .accept =>
    if w = .control then some (clientNew (serve s w { e with epollin := false })) else none
  | .refuse => if w = .control then some { s with serving := none } else none
  | _ => none

/-- `EPOLLHUP`. A hang-up of the serial port or of the control socket ends the process. -/
def stepHup (w : Source) : Action → Option State
  | .hangUp =>
    match w with
    | .client i => (handler s i).bind fun h => fdhandlerClose { s with serving := none } h
    | _ => none
  | _ => none

/-- `EPOLLOUT`. -/
def stepOut (w : Source) (e : Events) : Action → Option State
  | .write whole =>
    match w with
    | .client i =>
      (handler s i).map fun _ =>
        change (serve s w { e with epollout := false }) i fun h => h.wrote whole
    | _ => some (serve s w { e with epollout := false })
  | _ => none

def step (s : State) (a : Action) : Option State :=
  match s.serving with
  | none =>
    match a with
    | .wait ready =>
      if s.due = [] ∧ (ready.map Prod.fst).Nodup ∧ ready.all (fun e => hooked s e.1) then
        some { s with due := ready }
      else none
    | .dispatch =>
      match s.due with
      | [] => none
      | e :: due => some { s with due := due, serving := some e }
    | _ => none
  | some (w, e) =>
    if e.epollin then stepIn s w e a
    else if e.epollhup then stepHup s w a
    else if e.epollout then stepOut s w e a
    else
      match a with
      | .return => some { s with serving := none }
      | _ => none

/-! What is wanted. -/

def live : List Nat := s.handlers.map Handler.id

/-- The looper has a hook for the handler, or is about to call it. -/
def Known (i : Nat) : Prop := i ∈ s.hooks ∨ .client i ∈ s.due.map Prod.fst

structure Good : Prop where
  known : ∀ i, Known s i → i ∈ live s
  receivers : ∀ h ∈ s.handlers, h.receiver.post = true ∨ h.receiver.close = true →
    ∃ c ∈ s.mult.clients, c.id = h.id
  serving : ∀ i e, s.serving = some (.client i, e) → e.any = true → i ∈ live s

/-- What a client sends frees it: it is still to be registered, or its service has too long a name. -/
def Refused (m : Multiplexer.State) (i : Nat) (data : List UInt8) : Prop :=
  ∃ c, Multiplexer.client m i = some c ∧ c.registered = false ∧ (c.channel > 0 ∨ ¬ Short data)

/-- A client that is freed, by what it sends or by the emulator, has nothing in its queue, and no
events of its descriptor are still to be handled. -/
def Proper (s : State) : Action → Prop
  | .receive data => ∀ i e h, s.serving = some (.client i, e) → handler s i = some h →
      Refused s.mult i data → h.out = 0 ∧ e.epollhup = false ∧ e.epollout = false
  | .packet channel data => ∀ c h, channel = 0 → control data = some .disconnect →
      findClient s.mult (hex2int (data.drop 11)) = some c → handler s c.id = some h →
      h.out = 0 ∧ .client c.id ∉ s.due.map Prod.fst
  | _ => True

/-! The multiplexer by itself. -/

variable {s t : State} {m m' : Multiplexer.State} {i : Nat} {h : Handler} {w : Source} {e : Events}

theorem mult_shutdown (ht : fdhandlerShutdown s i = some t) : t.mult = s.mult := by
  obtain ⟨h, -, ht⟩ := Option.bind_eq_some_iff.mp ht
  split_ifs at ht
  · exact Option.some.inj ht ▸ rfl
  · exact Option.some.inj ht ▸ rfl

theorem mult_clientFree (ht : clientFree s i = some t) : t.mult = Multiplexer.clientFree s.mult i :=
  mult_shutdown ht

theorem enqueue_some (ht : fdhandlerEnqueue s i = some t) : t = change s i Handler.enqueue := by
  obtain ⟨h, -, ht⟩ := Option.map_eq_some_iff.mp ht
  exact ht.symm

theorem mult_clientFdReceive {data : List UInt8} (ht : clientFdReceive s i data = some t) :
    Multiplexer.clientFdReceive s.mult i data = some t.mult := by
  unfold clientFdReceive at ht
  unfold Multiplexer.clientFdReceive
  cases there : Multiplexer.client s.mult i with
  | none =>
    rw [there] at ht
    cases ht
  | some c =>
    rw [there] at ht
    dsimp only at ht ⊢
    split_ifs at ht ⊢ with registered waiting
    · exact Option.some.inj ht ▸ rfl
    · rw [mult_clientFree ht]
    · cases opens : openChannel s.mult data with
      | none =>
        rw [opens] at ht
        cases ht
      | some r =>
        rw [opens] at ht
        dsimp only at ht ⊢
        split_ifs at ht ⊢
        · rw [mult_clientFree ht]
        · exact Option.some.inj ht ▸ rfl

theorem mult_handleControl {data : List UInt8} (ht : handleControl s data = some t) :
    t.mult = Multiplexer.handleControl s.mult data := by
  unfold handleControl at ht
  unfold Multiplexer.handleControl
  cases hk : control data with
  | none =>
    rw [hk] at ht
    exact Option.some.inj ht ▸ rfl
  | some kind =>
    rw [hk] at ht
    dsimp only at ht ⊢
    cases found : findClient s.mult (hex2int (data.drop 11)) with
    | none =>
      rw [found] at ht
      exact Option.some.inj ht ▸ rfl
    | some c =>
      rw [found] at ht
      dsimp only at ht ⊢
      cases kind with
      | okConnect | koConnect =>
        obtain ⟨u, hu, rfl⟩ := Option.map_eq_some_iff.mp ht
        rw [enqueue_some hu]
        rfl
      | disconnect => exact mult_clientFree ht

theorem mult_serialReceive {channel : Nat} {data : List UInt8}
    (ht : serialReceive s channel data = some t) : t.mult = Multiplexer.serialReceive s.mult channel data := by
  unfold serialReceive at ht
  unfold Multiplexer.serialReceive
  split_ifs at ht ⊢
  · exact mult_handleControl ht
  · cases found : findClient s.mult channel with
    | none =>
      rw [found] at ht
      exact Option.some.inj ht ▸ rfl
    | some c =>
      rw [found] at ht
      obtain ⟨u, hu, rfl⟩ := Option.map_eq_some_iff.mp ht
      rw [enqueue_some hu]
      rfl

theorem mult_close (ht : fdhandlerClose s h = some t) :
    t.mult = s.mult ∨ Multiplexer.clientFdClose s.mult h.id = some t.mult := by
  unfold fdhandlerClose at ht
  split_ifs at ht
  · obtain ⟨m, hm, rfl⟩ := Option.map_eq_some_iff.mp ht
    exact Or.inr hm
  · exact Or.inl (Option.some.inj ht ▸ rfl)

/-! What a step can do. -/

/-- The steps that are possible, and what each needs. -/
inductive Moves (s : State) : Action → State → Prop where
  | wait {ready : List (Source × Events)} (idle : s.serving = none) (nothing : s.due = [])
      (apart : (ready.map Prod.fst).Nodup) (known : ∀ e ∈ ready, hooked s e.1 = true) :
      Moves s (.wait ready) { s with due := ready, serving := none }
  | dispatch {e : Source × Events} {due : List (Source × Events)} (idle : s.serving = none)
      (first : s.due = e :: due) : Moves s .dispatch { s with due := due, serving := some e }
  | packet {channel : Nat} {data : List UInt8} {t : State} (e : Events)
      (at_ : s.serving = some (.serial, e)) (ht : serialReceive s channel data = some t) :
      Moves s (.packet channel data) t
  | receive {data : List UInt8} {t : State} (i : Nat) (e : Events) (h : Handler)
      (at_ : s.serving = some (.client i, e)) (there : handler s i = some h)
      (ht : clientFdReceive (serve s (.client i) { e with epollin := false }) i data = some t) :
      Moves s (.receive data) t
  | drop {data : List UInt8} (i : Nat) (e : Events) (h : Handler)
      (at_ : s.serving = some (.client i, e)) (there : handler s i = some h)
      (closed : h.receiver.post = false) :
      Moves s (.receive data) (serve s (.client i) { e with epollin := false })
  | pass (w : Source) (e : Events) (at_ : s.serving = some (w, e)) (there : present s w = true) :
      Moves s .pass (serve s w { e with epollin := false })
  | accept (e : Events) (at_ : s.serving = some (.control, e)) :
      Moves s .accept (clientNew (serve s .control { e with epollin := false }))
  | refuse (e : Events) (at_ : s.serving = some (.control, e)) :
      Moves s .refuse { s with serving := none }
  | hangUp {t : State} (i : Nat) (e : Events) (h : Handler) (at_ : s.serving = some (.client i, e))
      (flag : e.epollhup = true) (there : handler s i = some h)
      (ht : fdhandlerClose { s with serving := none } h = some t) : Moves s .hangUp t
  | write {whole : Bool} (i : Nat) (e : Events) (h : Handler) (at_ : s.serving = some (.client i, e))
      (there : handler s i = some h) : Moves s (.write whole)
        (change (serve s (.client i) { e with epollout := false }) i fun h => h.wrote whole)
  | other {whole : Bool} (w : Source) (e : Events) (at_ : s.serving = some (w, e))
      (other : ∀ i, w ≠ .client i) : Moves s (.write whole) (serve s w { e with epollout := false })
  | return (w : Source) (e : Events) (at_ : s.serving = some (w, e)) (ended : e.any = false) :
      Moves s .return { s with serving := none }

theorem moves_in {a : Action} (at_ : s.serving = some (w, e)) (ht : stepIn s w e a = some t) :
    Moves s a t := by
  cases a with
  | packet channel data =>
    obtain ⟨rfl, ht⟩ := Option.ite_none_right_eq_some.mp ht
    exact .packet e at_ ht
  | receive data =>
    cases w with
    | client i =>
      obtain ⟨-, ht⟩ := Option.ite_none_right_eq_some.mp ht
      obtain ⟨h, there, ht⟩ := Option.bind_eq_some_iff.mp ht
      split_ifs at ht with post
      · exact .receive i e h at_ there ht
      · exact Option.some.inj ht ▸ .drop i e h at_ there (by simpa using post)
    | _ => cases ht
  | pass =>
    obtain ⟨⟨-, there⟩, ht⟩ := Option.ite_none_right_eq_some.mp ht
    exact Option.some.inj ht ▸ .pass w e at_ there
  | accept =>
    obtain ⟨rfl, ht⟩ := Option.ite_none_right_eq_some.mp ht
    exact Option.some.inj ht ▸ .accept e at_
  | refuse =>
    obtain ⟨rfl, ht⟩ := Option.ite_none_right_eq_some.mp ht
    exact Option.some.inj ht ▸ .refuse e at_
  | _ => cases ht

theorem moves_hup {a : Action} (at_ : s.serving = some (w, e)) (flag : e.epollhup = true)
    (ht : stepHup s w a = some t) : Moves s a t := by
  cases a with
  | hangUp =>
    cases w with
    | client i =>
      obtain ⟨h, there, ht⟩ := Option.bind_eq_some_iff.mp ht
      exact .hangUp i e h at_ flag there ht
    | _ => cases ht
  | _ => cases ht

theorem moves_out {a : Action} (at_ : s.serving = some (w, e)) (ht : stepOut s w e a = some t) :
    Moves s a t := by
  cases a with
  | write whole =>
    cases w with
    | client i =>
      obtain ⟨h, there, rfl⟩ := Option.map_eq_some_iff.mp ht
      exact .write i e h at_ there
    | serial | control => exact Option.some.inj ht ▸ .other _ e at_ fun i same => by cases same
  | _ => cases ht

theorem step_moves {a : Action} (ht : step s a = some t) : Moves s a t := by
  unfold step at ht
  cases at_ : s.serving with
  | none =>
    rw [at_] at ht
    cases a with
    | wait ready =>
      obtain ⟨⟨nothing, apart, known⟩, ht⟩ := Option.ite_none_right_eq_some.mp ht
      exact Option.some.inj ht ▸ .wait at_ nothing apart (List.all_eq_true.mp known)
    | dispatch =>
      dsimp only at ht
      split at ht
      · cases ht
      · rename_i first
        exact Option.some.inj ht ▸ .dispatch at_ first
    | _ => cases ht
  | some p =>
    obtain ⟨w, e⟩ := p
    rw [at_] at ht
    dsimp only at ht
    split_ifs at ht with epollin epollhup epollout
    · exact moves_in at_ ht
    · exact moves_hup at_ epollhup ht
    · exact moves_out at_ ht
    · cases a with
      | «return» =>
        have ended : e.any = false := by simp [Events.any, epollin, epollhup, epollout]
        exact Option.some.inj ht ▸ .return w e at_ ended
      | _ => cases ht

/-- Every step leaves the multiplexer as it was, or takes it one step on. -/
theorem step_mult {a : Action} (ht : step s a = some t) :
    t.mult = s.mult ∨ ∃ b, Multiplexer.step s.mult b = some t.mult := by
  cases step_moves ht with
  | packet e at_ ht => exact Or.inr ⟨.serial _ _, congrArg some (mult_serialReceive ht).symm⟩
  | receive i e h at_ there ht =>
    have received := mult_clientFdReceive ht
    exact Or.inr ⟨.receive i _, received⟩
  | accept e at_ => exact Or.inr ⟨.accept, rfl⟩
  | hangUp i e h at_ flag there ht => exact (mult_close ht).imp id fun closed => ⟨.close h.id, closed⟩
  | _ => exact Or.inl rfl

/-- The multiplexer runs as it does by itself. -/
theorem run_mult {as : List Action} (h : run step init as = some t) :
    ∃ bs, run Multiplexer.step Multiplexer.init bs = some t.mult :=
  run_of_steps State.mult (fun _ _ _ => step_mult) h

/-! The handlers by themselves. -/

/-- A handler as it is seen here. -/
def view (i : Nat) (f : FDHandler) : Handler := ⟨i, f.closing, f.receiver, f.out.length⟩

def views (P : Pool FDHandler) : List Handler := P.entries.map fun e => view e.1 e.2

variable {d : FdHandler.State} {f : FDHandler}

theorem view_wrote (i n : Nat) (f : FDHandler) :
    ∃ whole, view i (f.wrote n) = (view i f).wrote whole := by
  obtain ⟨closing, -, receiver⟩ := FdHandler.wrote_same f n
  cases first : f.out with
  | nil => exact ⟨false, by rw [FdHandler.wrote_nil first]; rfl⟩
  | cons p out =>
    have queue := (FdHandler.wrote_cons first n).2.1
    refine ⟨decide (p.data.length ≤ f.outPos + n), ?_⟩
    rw [view, view, Handler.wrote, closing, receiver, queue, first]
    by_cases whole : p.data.length ≤ f.outPos + n <;> simp [whole]

theorem views_modify {P : Pool FDHandler} {g : FDHandler → FDHandler} {k : Handler → Handler}
    (h : ∀ f, P.lookup i = some f → view i (g f) = k (view i f)) :
    views (P.modify i g) = (views P).map fun h => if h.id = i then k h else h := by
  rw [views, views, Pool.modify, List.map_map, List.map_map]
  apply List.map_congr_left
  intro e he
  rw [Function.comp_apply, Function.comp_apply]
  by_cases same : e.1 = i
  · subst same
    rw [if_pos rfl]
    exact (h e.2 (Pool.lookup_eq_some.mpr he)).trans (if_pos rfl).symm
  · rw [if_neg same]
    exact (if_neg same).symm

theorem views_erase (P : Pool FDHandler) (i : Nat) :
    views (P.erase i) = (views P).filter fun h => h.id ≠ i := by
  rw [views, views, List.filter_map]
  rfl

theorem handler_views (same : s.handlers = views d.handlers) (found : d.handlers.lookup i = some f) :
    handler s i = some (view i f) := by
  obtain ⟨e, he, rfl⟩ := Option.map_eq_some_iff.mp found
  have key : e.1 = i := by simpa using List.find?_some he
  have first : d.handlers.entries.find? ((fun h => decide (h.id = i)) ∘ fun e => view e.1 e.2) =
      some e := he
  rw [handler, same, views, List.find?_map, first, ← key]
  rfl

theorem enqueue_views (same : s.handlers = views d.handlers) (p : FdHandler.Packet)
    (ht : fdhandlerEnqueue s i = some t) :
    t.handlers = views (FdHandler.fdhandlerEnqueue d i p).handlers := by
  obtain ⟨h, -, rfl⟩ := Option.map_eq_some_iff.mp ht
  have more (f : FDHandler) : view i (f.enqueue p) = (view i f).enqueue := by
    rw [view, FDHandler.enqueue, List.length_append]
    rfl
  exact (congrArg _ same).trans (views_modify fun f _ => more f).symm

/-- The deferred shutdown is the one of the handlers that hold packets. -/
theorem shutdown_views (same : s.handlers = views d.handlers) (found : d.handlers.lookup i = some f)
    (ht : fdhandlerShutdown s i = some t) :
    t.handlers = views (FdHandler.fdhandlerShutdown d i f).handlers := by
  rw [fdhandlerShutdown, handler_views same found, Option.bind_some] at ht
  unfold FdHandler.fdhandlerShutdown
  have pending : 0 < (view i f).out ↔ f.out ≠ [] := List.length_pos_iff
  by_cases busy : f.out ≠ [] ∧ f.closing = false
  · rw [if_pos ⟨pending.mpr busy.1, busy.2⟩] at ht
    rw [if_pos busy]
    obtain rfl := Option.some.inj ht
    exact (congrArg _ same).trans (views_modify fun f _ => rfl).symm
  · rw [if_neg fun busy' => busy ⟨pending.mp busy'.1, busy'.2⟩] at ht
    rw [if_neg busy]
    obtain rfl := Option.some.inj ht
    exact (congrArg _ same).trans (views_erase d.handlers i).symm

theorem close_views (same : s.handlers = views d.handlers) (ht : fdhandlerClose s (view i f) = some t) :
    t.handlers = views (FdHandler.fdhandlerClose d i f).handlers := by
  unfold fdhandlerClose at ht
  have erased : (remove s i).handlers = views (d.handlers.erase i) :=
    (congrArg _ same).trans (views_erase d.handlers i).symm
  split_ifs at ht
  · obtain ⟨m, -, rfl⟩ := Option.map_eq_some_iff.mp ht
    exact erased
  · exact Option.some.inj ht ▸ erased

theorem change_wrote_false (s : State) (i : Nat) : change s i (fun h => h.wrote false) = s := by
  have same : s.handlers.map (fun h => if h.id = i then h.wrote false else h) = s.handlers :=
    (List.map_congr_left fun h _ => ite_self h).trans (List.map_id _)
  rw [change, same]

theorem eventOut_views (same : s.handlers = views d.handlers) (found : d.handlers.lookup i = some f)
    (wrote : Option Nat) : ∃ whole,
      (change s i fun h => h.wrote whole).handlers = views (FdHandler.eventOut d i f wrote).handlers := by
  unfold FdHandler.eventOut
  cases wrote with
  | none => exact ⟨false, (congrArg State.handlers (change_wrote_false s i)).trans same⟩
  | some n =>
    obtain ⟨whole, wrote⟩ := view_wrote i n f
    have set : (change s i fun h => h.wrote whole).handlers =
        views (d.handlers.modify i fun _ => f.wrote n) := by
      refine (congrArg _ same).trans (views_modify ?_).symm
      intro g hg
      obtain rfl := Option.some.inj (found.symm.trans hg)
      exact wrote
    dsimp only
    split
    · exact ⟨false, (congrArg State.handlers (change_wrote_false s i)).trans same⟩
    · split_ifs <;> exact ⟨whole, set⟩

/-! Numbers of clients. -/

def ids (m : Multiplexer.State) : List Nat := m.clients.map Client.id

theorem ids_modify {f : Client → Client} (same : ∀ c, (f c).id = c.id) :
    ids (Multiplexer.modify m i f) = ids m := by
  rw [ids, Multiplexer.modify, List.map_map]
  apply List.map_congr_left
  intro c _
  rw [Function.comp_apply]
  split_ifs
  · exact same c
  · rfl

theorem ids_clientFree (m : Multiplexer.State) (i : Nat) :
    ids (Multiplexer.clientFree m i) = (ids m).filter fun j => j ≠ i := by
  rw [ids, ids, List.filter_map]
  rfl

theorem clientFdClose_some (hm : Multiplexer.clientFdClose m i = some m') :
    ids m' = (ids m).filter (fun j => j ≠ i) ∧ m'.connections = m.connections := by
  unfold Multiplexer.clientFdClose at hm
  cases there : Multiplexer.client m i with
  | none =>
    rw [there] at hm
    cases hm
  | some c =>
    rw [there] at hm
    obtain rfl := Option.some.inj hm
    rw [ids_clientFree]
    split_ifs <;> exact ⟨rfl, rfl⟩

/-- The clients have different numbers, and none that is still to come. -/
structure Numbered (m : Multiplexer.State) : Prop where
  nodup : (ids m).Nodup
  below : ∀ i ∈ ids m, i < m.connections

theorem Numbered.sublist (h : Numbered m) (fewer : (ids m').Sublist (ids m))
    (connections : m'.connections = m.connections) : Numbered m' where
  nodup := h.nodup.sublist fewer
  below := fun i hi => connections ▸ h.below i (fewer.subset hi)

theorem Numbered.modify (h : Numbered m) {f : Client → Client} (same : ∀ c, (f c).id = c.id) :
    Numbered (Multiplexer.modify m i f) := by
  refine h.sublist ?_ rfl
  rw [ids_modify same]

theorem Numbered.free (h : Numbered m) (i : Nat) : Numbered (Multiplexer.clientFree m i) := by
  refine h.sublist ?_ rfl
  rw [ids_clientFree]
  exact List.filter_sublist

theorem Numbered.receive (h : Numbered m) {data : List UInt8}
    (hm : Multiplexer.clientFdReceive m i data = some m') : Numbered m' := by
  unfold Multiplexer.clientFdReceive at hm
  cases there : Multiplexer.client m i with
  | none =>
    rw [there] at hm
    cases hm
  | some c =>
    rw [there] at hm
    dsimp only at hm
    split_ifs at hm
    · exact Option.some.inj hm ▸ h.sublist (List.Sublist.refl _) rfl
    · exact Option.some.inj hm ▸ h.free i
    · cases opens : openChannel m data with
      | none =>
        rw [opens] at hm
        cases hm
      | some r =>
        obtain ⟨channel, m₁⟩ := r
        obtain ⟨k, -, opened⟩ := Multiplexer.openChannel_some opens
        have same : ids m₁ = ids m := congrArg (List.map Client.id) opened.clients
        have h' : Numbered m₁ := h.sublist (same ▸ List.Sublist.refl _) opened.connections
        rw [opens] at hm
        dsimp only at hm
        split_ifs at hm
        · exact Option.some.inj hm ▸ h'.free i
        · exact Option.some.inj hm ▸ h'.modify fun _ => rfl

theorem Numbered.serial (h : Numbered m) (channel : Nat) (data : List UInt8) :
    Numbered (Multiplexer.serialReceive m channel data) := by
  unfold Multiplexer.serialReceive
  split_ifs
  · unfold Multiplexer.handleControl
    split
    · exact h
    · split
      · exact h
      · split
        · exact h.modify fun _ => rfl
        · exact h.modify fun _ => rfl
        · exact h.free _
  · split
    · exact h.modify fun _ => rfl
    · exact h

theorem Numbered.step (h : Numbered m) {b : Multiplexer.Action} (hm : Multiplexer.step m b = some m') :
    Numbered m' := by
  cases b with
  | accept =>
    obtain rfl := Option.some.inj hm
    refine ⟨List.nodup_cons.mpr ⟨fun there => Nat.lt_irrefl _ (h.below _ there), h.nodup⟩, ?_⟩
    intro i hi
    cases List.mem_cons.mp hi with
    | inl same => exact same ▸ Nat.lt_succ_self _
    | inr old => exact Nat.lt_succ_of_lt (h.below i old)
  | receive i data => exact h.receive hm
  | close i =>
    obtain ⟨fewer, connections⟩ := clientFdClose_some hm
    exact h.sublist (fewer ▸ List.filter_sublist) connections
  | serial channel data => exact Option.some.inj hm ▸ h.serial channel data

/-! The invariant. -/

/-- There is one open handler for each client, and one hook. -/
structure Paired (s : State) : Prop where
  ids : live s = ids s.mult
  hooks : s.hooks = live s
  open_ : ∀ h ∈ s.handlers, h.closing = false ∧ h.receiver = ⟨true, true⟩

/-- What is delivered goes to handlers that are there, and only once in a round. -/
structure Scheduled (s : State) : Prop where
  due : ∀ i, .client i ∈ s.due.map Prod.fst → i ∈ live s
  apart : (s.due.map Prod.fst).Nodup
  served : ∀ w e, s.serving = some (w, e) → w ∉ s.due.map Prod.fst
  serving : ∀ i e, s.serving = some (.client i, e) → e.any = true → i ∈ live s

structure Inv (s : State) : Prop where
  numbered : Numbered s.mult
  paired : Paired s
  scheduled : Scheduled s

theorem inv_init : Inv init where
  numbered := ⟨List.nodup_nil, nofun⟩
  paired := ⟨rfl, rfl, nofun⟩
  scheduled := ⟨nofun, List.nodup_nil, nofun, nofun⟩

theorem Inv.good (I : Inv s) : Good s where
  known := by
    intro i known
    cases known with
    | inl hook => exact I.paired.hooks ▸ hook
    | inr due => exact I.scheduled.due i due
  receivers := by
    intro h hh _
    have there : h.id ∈ live s := List.mem_map_of_mem hh
    rw [I.paired.ids] at there
    exact List.mem_map.mp there
  serving := I.scheduled.serving

theorem handler_some (there : handler s i = some h) : h ∈ s.handlers ∧ h.id = i :=
  ⟨List.mem_of_find?_eq_some there, by simpa using List.find?_some there⟩

theorem handler_of_mem (there : i ∈ live s) : ∃ h, handler s i = some h := by
  obtain ⟨h, hh, same⟩ := List.mem_map.mp there
  apply Option.isSome_iff_exists.mp
  rw [handler, List.find?_isSome]
  exact ⟨h, hh, decide_eq_true same⟩

theorem live_change {f : Handler → Handler} (same : ∀ h, (f h).id = h.id) :
    live (change s i f) = live s := by
  rw [live, change, List.map_map]
  apply List.map_congr_left
  intro h _
  rw [Function.comp_apply]
  split_ifs
  · exact same h
  · rfl

theorem live_remove (s : State) (i : Nat) : live (remove s i) = (live s).filter fun j => j ≠ i := by
  rw [live, live, List.filter_map]
  rfl

theorem mem_live_remove {j : Nat} : j ∈ live (remove s i) ↔ j ∈ live s ∧ j ≠ i := by
  rw [live_remove, List.mem_filter, decide_eq_true_iff]

theorem Paired.reschedule (P : Paired s) (due : List (Source × Events))
    (serving : Option (Source × Events)) : Paired { s with due := due, serving := serving } :=
  ⟨P.ids, P.hooks, P.open_⟩

theorem Paired.mult (P : Paired s) (same : Daemon.ids m = Daemon.ids s.mult) :
    Paired { s with mult := m } :=
  ⟨P.ids.trans same.symm, P.hooks, P.open_⟩

theorem Paired.change (P : Paired s) {f : Handler → Handler} (same : ∀ h, (f h).id = h.id)
    (still : ∀ h, (f h).closing = h.closing ∧ (f h).receiver = h.receiver) :
    Paired (change s i f) where
  ids := (live_change same).trans P.ids
  hooks := P.hooks.trans (live_change same).symm
  open_ := by
    intro h hh
    obtain ⟨g, hg, rfl⟩ := List.mem_map.mp hh
    split_ifs
    · rw [(still g).1, (still g).2]
      exact P.open_ g hg
    · exact P.open_ g hg

theorem Paired.remove (P : Paired s) (gone : Daemon.ids m = (Daemon.ids s.mult).filter fun j => j ≠ i) :
    Paired (remove { s with mult := m } i) where
  ids := by
    rw [live_remove]
    exact (congrArg _ P.ids).trans gone.symm
  hooks := by
    rw [live_remove]
    exact congrArg _ P.hooks
  open_ := fun h hh => P.open_ h (List.mem_of_mem_filter hh)

theorem Scheduled.congr (S : Scheduled s) (live : live t = live s) (due : t.due = s.due)
    (serving : t.serving = s.serving) : Scheduled t := by
  obtain ⟨due_, apart, served, serving_⟩ := S
  rw [← due] at due_ apart served
  rw [← serving] at served serving_
  rw [← live] at due_ serving_
  exact ⟨due_, apart, served, serving_⟩

/-- Fewer flags are left of the event that is handled, or none of it. -/
theorem Scheduled.serve (S : Scheduled s) (at_ : s.serving = some (w, e)) {e' : Events}
    (fewer : e'.any = true → e.any = true) : Scheduled (serve s w e') where
  due := S.due
  apart := S.apart
  served := by
    intro w' e'' same
    obtain ⟨rfl, rfl⟩ := Prod.mk.inj (Option.some.inj same)
    exact S.served w e at_
  serving := by
    intro i e'' same flags
    obtain ⟨rfl, rfl⟩ := Prod.mk.inj (Option.some.inj same)
    exact S.serving i e at_ (fewer flags)

theorem Scheduled.ended (S : Scheduled s) : Scheduled { s with serving := none } :=
  ⟨S.due, S.apart, nofun, nofun⟩

theorem Scheduled.remove (S : Scheduled s) (undue : .client i ∉ s.due.map Prod.fst)
    (ended : ∀ e, s.serving = some (.client i, e) → e.any = false) (m : Multiplexer.State) :
    Scheduled (remove { s with mult := m } i) where
  due := by
    intro j hj
    refine mem_live_remove.mpr ⟨S.due j hj, ?_⟩
    rintro rfl
    exact undue hj
  apart := S.apart
  served := S.served
  serving := by
    intro j e at_ flags
    refine mem_live_remove.mpr ⟨S.serving j e at_ flags, ?_⟩
    rintro rfl
    rw [ended e at_] at flags
    cases flags

/-! What becomes of a client that is freed. -/

/-- Without anything in its queue the handler is closed. -/
theorem clientFree_idle (there : handler s i = some h) (idle : h.out = 0) :
    clientFree s i = some (remove { s with mult := Multiplexer.clientFree s.mult i } i) := by
  have pending : ¬ (0 < h.out ∧ h.closing = false) := fun busy => Nat.lt_irrefl 0 (idle ▸ busy.1)
  have there' : handler { s with mult := Multiplexer.clientFree s.mult i } i = some h := there
  obtain ⟨-, rfl⟩ := handler_some there
  rw [clientFree, fdhandlerShutdown, there', Option.bind_some, if_neg pending]
  rfl

theorem clientFree_busy (there : handler s i = some h) (busy : 0 < h.out) (closing : h.closing = false) :
    clientFree s i =
      some (change { s with mult := Multiplexer.clientFree s.mult i } i fun h => h.shut true) := by
  have there' : handler { s with mult := Multiplexer.clientFree s.mult i } i = some h := there
  rw [clientFree, fdhandlerShutdown, there', Option.bind_some, if_pos ⟨busy, closing⟩]

/-! Steps. -/

theorem Paired.free (P : Paired s) (there : handler s i = some h) (idle : h.out = 0)
    (ht : clientFree s i = some t) : Paired t := by
  rw [clientFree_idle there idle] at ht
  exact Option.some.inj ht ▸ P.remove (ids_clientFree _ _)

theorem Scheduled.free (S : Scheduled s) (there : handler s i = some h) (idle : h.out = 0)
    (undue : .client i ∉ s.due.map Prod.fst)
    (ended : ∀ e, s.serving = some (.client i, e) → e.any = false)
    (ht : clientFree s i = some t) : Scheduled t := by
  rw [clientFree_idle there idle] at ht
  exact Option.some.inj ht ▸ S.remove undue ended _

/-- A packet for a client changes no more than its queue and what the multiplexer knows of it. -/
theorem kept_enqueue (P : Paired s) (S : Scheduled s) (f : Client → Client)
    (same : ∀ c, (f c).id = c.id) (ht : (fdhandlerEnqueue s i).map (fun u =>
      { u with mult := Multiplexer.modify u.mult i f }) = some t) : Paired t ∧ Scheduled t := by
  obtain ⟨u, hu, rfl⟩ := Option.map_eq_some_iff.mp ht
  rw [enqueue_some hu]
  have ids (h : Handler) : h.enqueue.id = h.id := rfl
  exact ⟨(P.change (f := Handler.enqueue) ids fun _ => ⟨rfl, rfl⟩).mult (ids_modify same),
    S.congr (live_change ids) rfl rfl⟩

/-- What a client sends frees it exactly when it is refused. -/
theorem received_cases {data : List UInt8} (ht : clientFdReceive s i data = some t) :
    ∃ m, ids m = ids s.mult ∧ (¬ Refused s.mult i data ∧ t = { s with mult := m } ∨
      Refused s.mult i data ∧ clientFree { s with mult := m } i = some t) := by
  unfold clientFdReceive at ht
  cases client : Multiplexer.client s.mult i with
  | none =>
    rw [client] at ht
    cases ht
  | some c =>
    have refused_iff : Refused s.mult i data ↔
        c.registered = false ∧ (c.channel > 0 ∨ ¬ Short data) := by
      simp [Refused, client]
    rw [refused_iff]
    rw [client] at ht
    dsimp only at ht
    split_ifs at ht with registered waiting
    · obtain rfl := Option.some.inj ht
      have same : ids (Multiplexer.serialSend s.mult c.channel data) = ids s.mult := rfl
      exact ⟨_, same, Or.inl ⟨fun refused => by simp [registered] at refused, rfl⟩⟩
    · exact ⟨s.mult, rfl, Or.inr ⟨⟨by simpa using registered, Or.inl waiting⟩, ht⟩⟩
    · cases opens : openChannel s.mult data with
      | none =>
        rw [opens] at ht
        cases ht
      | some r =>
        obtain ⟨channel, m₁⟩ := r
        obtain ⟨k, -, opened⟩ := Multiplexer.openChannel_some opens
        have same : ids m₁ = ids s.mult := congrArg (List.map Client.id) opened.clients
        rw [opens] at ht
        dsimp only at ht
        split_ifs at ht with neg
        · have long := opened.channel_neg_iff.mp neg
          exact ⟨m₁, same, Or.inr ⟨⟨by simpa using registered, Or.inr long⟩, ht⟩⟩
        · have short := mt opened.channel_neg_iff.mpr neg
          have modified : ids (Multiplexer.modify m₁ i fun c => { c with channel := channel }) =
              ids s.mult :=
            (ids_modify (f := fun c => { c with channel := channel }) fun _ => rfl).trans same
          obtain rfl := Option.some.inj ht
          exact ⟨_, modified, Or.inl ⟨fun refused => refused.2.elim waiting short, rfl⟩⟩

theorem kept_received (P : Paired s) (S : Scheduled s) {data : List UInt8}
    (at_ : s.serving = some (.client i, e)) (there : handler s i = some h)
    (proper : Refused s.mult i data → h.out = 0 ∧ e.any = false)
    (ht : clientFdReceive s i data = some t) : Paired t ∧ Scheduled t := by
  obtain ⟨m, same, result⟩ := received_cases ht
  have P' : Paired { s with mult := m } := P.mult same
  have S' : Scheduled { s with mult := m } := S.congr rfl rfl rfl
  cases result with
  | inl kept =>
    obtain ⟨-, rfl⟩ := kept
    exact ⟨P', S'⟩
  | inr freed =>
    obtain ⟨refused, ht⟩ := freed
    obtain ⟨idle, none⟩ := proper refused
    refine ⟨P'.free there idle ht, S'.free there idle (S.served _ _ at_) ?_ ht⟩
    intro e' at'
    obtain ⟨-, rfl⟩ := Prod.mk.inj (Option.some.inj (at_.symm.trans at'))
    exact none

theorem kept_packet (P : Paired s) (S : Scheduled s) {channel : Nat} {data : List UInt8}
    (at_ : s.serving = some (.serial, e)) (proper : Proper s (.packet channel data))
    (ht : serialReceive s channel data = some t) : Paired t ∧ Scheduled t := by
  unfold serialReceive at ht
  split_ifs at ht with zero
  · unfold handleControl at ht
    cases hk : control data with
    | none =>
      rw [hk] at ht
      exact Option.some.inj ht ▸ ⟨P, S⟩
    | some kind =>
      rw [hk] at ht
      dsimp only at ht
      cases found : findClient s.mult (hex2int (data.drop 11)) with
      | none =>
        rw [found] at ht
        exact Option.some.inj ht ▸ ⟨P, S⟩
      | some c =>
        rw [found] at ht
        dsimp only at ht
        cases kind with
        | okConnect => exact kept_enqueue P S (fun c => c.registration true) (fun _ => rfl) ht
        | koConnect => exact kept_enqueue P S (fun c => c.registration false) (fun _ => rfl) ht
        | disconnect =>
          have mem : c.id ∈ live s := by
            rw [P.ids]
            exact List.mem_map_of_mem (Multiplexer.findClient_some found).1
          obtain ⟨h, there⟩ := handler_of_mem mem
          obtain ⟨idle, undue⟩ := proper c h zero hk found there
          refine ⟨P.free there idle ht, S.free there idle undue ?_ ht⟩
          intro e' at'
          cases at_.symm.trans at'
  · cases found : findClient s.mult channel with
    | none =>
      rw [found] at ht
      exact Option.some.inj ht ▸ ⟨P, S⟩
    | some c =>
      rw [found] at ht
      exact kept_enqueue P S (fun c => { c with sent := c.sent ++ [data] }) (fun _ => rfl) ht

theorem kept_hang_up (P : Paired s) (S : Scheduled s) (at_ : s.serving = some (.client i, e))
    (there : handler s i = some h) (ht : fdhandlerClose { s with serving := none } h = some t) :
    Paired t ∧ Scheduled t := by
  have undue := S.served _ _ at_
  obtain ⟨hh, rfl⟩ := handler_some there
  have open_ : h.receiver.close = true := by rw [(P.open_ h hh).2]
  rw [fdhandlerClose, if_pos open_] at ht
  obtain ⟨m, hm, rfl⟩ := Option.map_eq_some_iff.mp ht
  have P' : Paired { s with serving := none } := P.reschedule _ _
  exact ⟨P'.remove (clientFdClose_some hm).1, S.ended.remove undue nofun m⟩

theorem Scheduled.new (S : Scheduled s) : Scheduled (clientNew s) where
  due := fun i hi => List.mem_cons_of_mem _ (S.due i hi)
  apart := S.apart
  served := S.served
  serving := fun i e at_ flags => List.mem_cons_of_mem _ (S.serving i e at_ flags)

theorem Paired.new (P : Paired s) : Paired (clientNew s) where
  ids := congrArg (List.cons _) P.ids
  hooks := congrArg (List.cons _) P.hooks
  open_ := by
    intro h hh
    cases List.mem_cons.mp hh with
    | inl same => exact same ▸ ⟨rfl, rfl⟩
    | inr old => exact P.open_ h old

theorem Paired.wait (P : Paired s) {ready : List (Source × Events)}
    (apart : (ready.map Prod.fst).Nodup) (known : ∀ e ∈ ready, hooked s e.1 = true) :
    Scheduled { s with due := ready, serving := none } where
  due := by
    intro i hi
    obtain ⟨e, he, same⟩ := List.mem_map.mp hi
    have hook := known e he
    rw [same] at hook
    exact P.hooks ▸ of_decide_eq_true hook
  apart := apart
  served := nofun
  serving := nofun

theorem Scheduled.dispatch (S : Scheduled s) {p : Source × Events} {due : List (Source × Events)}
    (first : s.due = p :: due) : Scheduled { s with due := due, serving := some p } := by
  have apart := S.apart
  rw [first, List.map_cons, List.nodup_cons] at apart
  refine ⟨?_, apart.2, ?_, ?_⟩
  · intro i hi
    exact S.due i (first ▸ List.mem_cons_of_mem _ hi)
  · intro w e same
    obtain rfl := Option.some.inj same
    exact apart.1
  · intro i e same _
    obtain rfl := Option.some.inj same
    exact S.due i (first ▸ List.mem_cons_self)

theorem any_read (e : Events) (flags : { e with epollin := false : Events }.any = true) : e.any = true := by
  unfold Events.any at flags ⊢
  rw [Bool.false_or] at flags
  rw [Bool.or_assoc, flags, Bool.or_true]

theorem any_written (e : Events) (flags : { e with epollout := false : Events }.any = true) :
    e.any = true := by
  unfold Events.any at flags ⊢
  rw [Bool.or_false] at flags
  rw [flags, Bool.true_or]

theorem kept_step {a : Action} (P : Paired s) (S : Scheduled s) (proper : Proper s a)
    (ht : Moves s a t) : Paired t ∧ Scheduled t := by
  cases ht with
  | wait idle nothing apart known => exact ⟨P.reschedule _ _, P.wait apart known⟩
  | dispatch idle first => exact ⟨P.reschedule _ _, S.dispatch first⟩
  | packet e at_ ht => exact kept_packet P S at_ proper ht
  | receive i e h at_ there ht =>
    have P' : Paired (serve s (.client i) { e with epollin := false }) := P.reschedule _ _
    refine kept_received P' (S.serve at_ (any_read e)) rfl there ?_ ht
    intro refused
    obtain ⟨idle, hup, out⟩ := proper i e h at_ there refused
    refine ⟨idle, ?_⟩
    rw [Events.any, hup, out]
    rfl
  | drop i e h at_ => exact ⟨P.reschedule _ _, S.serve at_ (any_read e)⟩
  | pass w e at_ => exact ⟨P.reschedule _ _, S.serve at_ (any_read e)⟩
  | accept e at_ =>
    have P' : Paired (serve s .control { e with epollin := false }) := P.reschedule _ _
    exact ⟨P'.new, (S.serve at_ (any_read e)).new⟩
  | refuse e at_ => exact ⟨P.reschedule _ _, S.ended⟩
  | hangUp i e h at_ flag there ht => exact kept_hang_up P S at_ there ht
  | @write whole i e h at_ there =>
    have P' : Paired (serve s (.client i) { e with epollout := false }) := P.reschedule _ _
    have S' := S.serve at_ (any_written e)
    have ids (h : Handler) : (h.wrote whole).id = h.id := rfl
    exact ⟨P'.change ids fun _ => ⟨rfl, rfl⟩, S'.congr (live_change ids) rfl rfl⟩
  | other w e at_ => exact ⟨P.reschedule _ _, S.serve at_ (any_written e)⟩
  | «return» w e at_ => exact ⟨P.reschedule _ _, S.ended⟩

theorem Inv.step {a : Action} (I : Inv s) (proper : Proper s a) (ht : step s a = some t) : Inv t := by
  obtain ⟨P, S⟩ := kept_step I.paired I.scheduled proper (step_moves ht)
  refine ⟨?_, P, S⟩
  cases step_mult ht with
  | inl same => exact same ▸ I.numbered
  | inr moved =>
    obtain ⟨b, hb⟩ := moved
    exact I.numbered.step hb

/-! Steps that are not proper. -/

/-- A client that is freed with something in its queue leaves a receiver behind. -/
theorem idle_of_good (P : Paired s) (there : handler s i = some h) (ht : clientFree s i = some t)
    (good : Good t) : h.out = 0 := by
  by_contra busy
  obtain ⟨hh, rfl⟩ := handler_some there
  obtain ⟨closing, receiver⟩ := P.open_ h hh
  rw [clientFree_busy there (Nat.pos_of_ne_zero busy) closing] at ht
  obtain rfl := Option.some.inj ht
  have stale : h.shut true ∈ (change { s with mult := Multiplexer.clientFree s.mult h.id } h.id
      fun h => h.shut true).handlers := List.mem_map.mpr ⟨h, hh, if_pos rfl⟩
  have post : (h.shut true).receiver.post = true := by rw [Handler.shut, receiver]
  obtain ⟨c, hc, same⟩ := good.receivers _ stale (Or.inl post)
  exact of_decide_eq_true (List.mem_filter.mp hc).2 same

/-- Events of a client that is freed would be delivered to nobody. -/
theorem ended_of_good (P : Paired s) (there : handler s i = some h) (ht : clientFree s i = some t)
    (good : Good t) : .client i ∉ s.due.map Prod.fst ∧
      ∀ e, s.serving = some (.client i, e) → e.any = false := by
  rw [clientFree_idle there (idle_of_good P there ht good)] at ht
  obtain rfl := Option.some.inj ht
  constructor
  · intro due
    exact (mem_live_remove.mp (good.known i (Or.inr due))).2 rfl
  · intro e at_
    by_contra flags
    exact (mem_live_remove.mp (good.serving i e at_ (by simpa using flags))).2 rfl

theorem proper_of_good (I : Inv s) {a : Action} (ht : step s a = some t) (good : Good t) :
    Proper s a := by
  cases a with
  | receive data =>
    intro i e h at_ there refused
    have P : Paired (serve s (.client i) { e with epollin := false }) :=
      I.paired.reschedule _ _
    have refused : Refused (serve s (.client i) { e with epollin := false }).mult i data := refused
    cases step_moves ht with
    | receive j e' h' at' there' ht =>
      obtain ⟨rfl, rfl⟩ : i = j ∧ e = e' := by
        simpa using Option.some.inj (at_.symm.trans at')
      obtain ⟨m, same, result⟩ := received_cases ht
      obtain ⟨-, ht⟩ := result.resolve_left fun kept => kept.1 refused
      have ended := (ended_of_good (P.mult same) there ht good).2 _ rfl
      refine ⟨idle_of_good (P.mult same) there ht good, ?_⟩
      simpa [Events.any] using ended
    | drop j e' h' at' there' closed =>
      have post := (I.paired.open_ h' (handler_some there').1).2
      rw [post] at closed
      cases closed
  | packet channel data =>
    intro c h zero hk found there
    cases step_moves ht with
    | packet e at_ ht =>
      have freed : clientFree s c.id = some t := by
        rw [← ht, serialReceive, if_pos zero, handleControl, hk]
        dsimp only
        rw [found]
      exact ⟨idle_of_good I.paired there freed good, (ended_of_good I.paired there freed good).1⟩
  | _ => trivial

/-- Nothing is called back that is gone exactly in the runs in which every client that is freed has
nothing left in its queue and no events still to be handled. -/
theorem callbacks_live_iff (as : List Action) :
    Always step Good init as ↔ Along step Proper init as :=
  always_iff_along (fun _ I => I.good) (fun _ _ _ I proper ht => I.step proper ht)
    (fun _ _ _ I ht good => proper_of_good I ht good) as inv_init

/-- A client connects and is given a channel, and is sent the answer and a disconnection at once. -/
def disconnected : List Action :=
  [.wait [(.control, ⟨true, false, false⟩)], .dispatch, .accept, .return,
    .wait [(.client 0, ⟨true, false, false⟩)], .dispatch, .receive (text "gsm"), .return,
    .wait [(.serial, ⟨true, false, false⟩)], .dispatch, .packet 0 (text "ok:connect:01"),
    .packet 0 (text "disconnect:01")]

theorem receiver_left_behind : ¬ ∀ as, Always step Good init as := by
  intro h
  have stale : ∃ t h, run step init disconnected = some t ∧ h ∈ t.handlers ∧
      h.receiver.post = true ∧ t.mult.clients = [] := by
    refine ⟨_, ⟨0, true, ⟨true, false⟩, 1⟩, rfl, ?_, rfl, ?_⟩
    · decide
    · decide
  obtain ⟨t, g, reached, hg, post, nobody⟩ := stale
  obtain ⟨c, hc, -⟩ := ((h disconnected).last reached).receivers g hg (Or.inl post)
  rw [nobody] at hc
  cases hc

end Anbox.Qemud.Daemon
