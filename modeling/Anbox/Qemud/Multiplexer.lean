import Anbox.Framework.Run
import Anbox.Framework.Search
import Mathlib.Data.List.Nodup
import Mathlib.Data.List.Pairwise

namespace Anbox.Qemud.Multiplexer

open Anbox.Framework

/-! Texts. -/

def hexDigit (c : UInt8) : Option Nat :=
  if 48 ≤ c ∧ c ≤ 57 then some (c.toNat - 48)
  else if 97 ≤ c ∧ c ≤ 102 then some (c.toNat - 97 + 10)
  else if 65 ≤ c ∧ c ≤ 70 then some (c.toNat - 65 + 10)
  else none

/-- The number that hexadecimal digits stand for. -/
def hexadecimal (data : List UInt8) : Option Nat :=
  data.foldlM (fun n c => (hexDigit c).map fun d => 16*n + d) 0

/-- A character that is no digit makes the whole a -1. -/
def hex2int (data : List UInt8) : Int :=
  match hexadecimal data with
  | some n => n
  | none => -1

def hexchar (d : Nat) : UInt8 := UInt8.ofNat (if d < 10 then 48 + d else 97 + (d - 10))

/-- `%02x`, of a number of one byte. -/
def hex2 (n : Nat) : List UInt8 := [hexchar (n / 16), hexchar (n % 16)]

/-- A text of ASCII characters. -/
def text (s : String) : List UInt8 := s.toList.map fun c => UInt8.ofNat c.toNat

def MAX_PAYLOAD : Nat := 4000

/-! The clients. -/

/-- A client by the number of its connection. `sent` is what was enqueued for it. -/
structure Client where
  id : Nat
  channel : Int
  registered : Bool
  sent : List (List UInt8)
  deriving DecidableEq

/-- The clients, the newest in front. `serial` is what was enqueued for the serial port, each packet
with its channel, and `connections` how many clients there were. -/
structure State where
  clients : List Client
  lastChannel : Nat
  serial : List (Int × List UInt8)
  connections : Nat
  deriving DecidableEq

def init : State where
  clients := []
  lastChannel := 0
  serial := []
  connections := 0

variable (m : State)

def client (i : Nat) : Option Client := m.clients.find? fun c => c.id = i

/-- `multiplexer_find_client`. -/
def findClient (channel : Int) : Option Client := m.clients.find? fun c => c.channel = channel

def serialSend (channel : Int) (data : List UInt8) : State :=
  { m with serial := m.serial ++ [(channel, data)] }

def clientFree (i : Nat) : State :=
  { m with clients := m.clients.filter fun c => c.id ≠ i }

def modify (i : Nat) (f : Client → Client) : State :=
  { m with clients := m.clients.map fun c => if c.id = i then f c else c }

def clientNew : State :=
  { m with
    clients := { id := m.connections, channel := -1, registered := false, sent := [] } :: m.clients
    connections := m.connections + 1 }

def clientSend (i : Nat) (data : List UInt8) : State :=
  modify m i fun c => { c with sent := c.sent ++ [data] }

/-- A client that is refused may try another service. -/
def Client.registration (c : Client) (registered : Bool) : Client :=
  { c with
    sent := c.sent ++ [text (if registered then "OK" else "KO")]
    registered := registered
    channel := if registered then c.channel else -1 }

/-! The channels. -/

/-- The search for a channel looks at the low byte of a counter. -/
def inUse (lastChannel : Nat) : Bool :=
  m.clients.any fun c => c.channel = ((lastChannel % 256 : Nat) : Int)

/-- The search comes to an end. -/
def Terminates : Prop := ∃ n, (search (· + 1) (inUse m) n m.lastChannel).isSome

/-- The bytes of a service's name, which `%.*s` takes up to the first zero. -/
def serviceName (service : List UInt8) : List UInt8 := service.takeWhile (· ≠ 0)

def connectText (service : List UInt8) (channel : Nat) : List UInt8 :=
  text "connect:" ++ serviceName service ++ text ":" ++ hex2 channel

/-- The channel the client gets, -1 for a name that is too long. After 256 channels the search
begins anew: there is no state behind one that has not ended by then. -/
def openChannel (service : List UInt8) : Option (Int × State) :=
  match search (· + 1) (inUse m) 256 m.lastChannel with
  | none => none
  | some last =>
    let m : State := { m with lastChannel := last }
    if (connectText service (last % 256)).length ≥ MAX_PAYLOAD then some (-1, m)
    else some ((last % 256 : Nat), serialSend m 0 (connectText service (last % 256)))

def closeChannel (channel : Int) : State :=
  serialSend m 0 (text "disconnect:" ++ hex2 channel.toNat)

/-! What happens to the daemon. -/

/-- `clientFdReceive`. -/
def clientFdReceive (i : Nat) (data : List UInt8) : Option State :=
  match client m i with
  | none => none
  | some c =>
    if c.registered then some (serialSend m c.channel data)
    -- the client should have waited for its registration
    else if c.channel > 0 then some (clientFree m i)
    else
      match openChannel m data with
      | none => none
      | some (channel, m) =>
        if channel < 0 then some (clientFree m i)
        else some (modify m i fun c => { c with channel := channel })

/-- `clientFdClose`. -/
def clientFdClose (i : Nat) : Option State :=
  match client m i with
  | none => none
  | some c =>
    some (clientFree (if c.channel > 0 then closeChannel m c.channel else m) i)

/-- A control message about a channel, by its first bytes. -/
inductive Control where
  | okConnect
  | koConnect
  | disconnect
  deriving DecidableEq

def Control.text : Control → List UInt8
  | .okConnect => Multiplexer.text "ok:connect:"
  | .koConnect => Multiplexer.text "ko:connect:"
  | .disconnect => Multiplexer.text "disconnect:"

/-- All other messages are ignored. -/
def control (data : List UInt8) : Option Control :=
  if data.length = 13 then
    if data.take 11 = Control.okConnect.text then some .okConnect
    else if data.take 11 = Control.koConnect.text then some .koConnect
    else if data.take 11 = Control.disconnect.text then some .disconnect
    else none
  else none

/-- `multiplexer_handle_control`. -/
def handleControl (data : List UInt8) : State :=
  match control data with
  | none => m
  | some kind =>
    match findClient m (hex2int (data.drop 11)) with
    | none => m
    | some c =>
      match kind with
      | .okConnect => modify m c.id fun c => c.registration true
      | .koConnect => modify m c.id fun c => c.registration false
      | .disconnect => clientFree m c.id

/-- `multiplexer_serial_receive`. -/
def serialReceive (channel : Nat) (data : List UInt8) : State :=
  if channel = 0 then handleControl m data
  else
    match findClient m channel with
    | some c => clientSend m c.id data
    | none => m

inductive Action where
  | accept
  | receive (i : Nat) (data : List UInt8)
  | close (i : Nat)
  | serial (channel : Nat) (data : List UInt8)

def step (m : State) : Action → Option State
  | .accept => some (clientNew m)
  | .receive i data => clientFdReceive m i data
  | .close i => clientFdClose m i
  | .serial channel data => some (serialReceive m channel data)

/-! What is wanted. -/

/-- Registered clients have channels of their own from 1 to 255, nobody has the control channel, and
a channel can be looked for. -/
structure Distinct : Prop where
  registered : ∀ c ∈ m.clients, c.registered = true → 1 ≤ c.channel ∧ c.channel ≤ 255
  distinct : m.clients.Pairwise fun c d =>
    c.registered = true → d.registered = true → c.channel ≠ d.channel
  reserved : ∀ c ∈ m.clients, c.channel ≠ 0
  terminates : Terminates m

/-- The channel that a control message names. -/
def named (data : List UInt8) : Option Nat :=
  match control data with
  | none => none
  | some _ => hexadecimal (data.drop 11)

/-- A client whose channel is not the one that a control message names is as it was. -/
structure OnlyNamed (m m' : State) (data : List UInt8) : Prop where
  kept : ∀ c ∈ m.clients, (∀ n : Nat, named data = some n → c.channel ≠ n) → c ∈ m'.clients
  none_new : ∀ c ∈ m'.clients, ∃ d ∈ m.clients, d.id = c.id

/-- What a step is to leave behind. -/
def Keeps (m : State) (a : Action) : Prop :=
  ∀ m', step m a = some m' → Distinct m' ∧ ∀ data, a = .serial 0 data → OnlyNamed m m' data

/-! When the search ends. -/

variable {m}

theorem inUse_eq_false {n : Nat} :
    inUse m n = false ↔ ∀ c ∈ m.clients, c.channel ≠ ((n % 256 : Nat) : Int) := by
  simp [inUse]

theorem iterate_add_one (k n : Nat) : (· + 1)^[k] n = n + k := by
  induction k with
  | zero => rfl
  | succ k ih =>
    rw [Function.iterate_succ_apply', ih]
    rfl

/-- A search of 256 steps finds any free channel there is. -/
theorem terminates_iff : Terminates m ↔ ∃ n < 256, ∀ c ∈ m.clients, c.channel ≠ ((n : Nat) : Int) := by
  constructor
  · intro ⟨n, h⟩
    obtain ⟨last, hl⟩ := Option.isSome_iff_exists.mp h
    exact ⟨last % 256, Nat.mod_lt _ (by decide), inUse_eq_false.mp (search_free hl)⟩
  · intro ⟨n, hn, free⟩
    refine ⟨256, ?_⟩
    rw [Option.isSome_iff_ne_none, Ne, search_eq_none]
    intro all
    have taken := all ((n + 256 - (m.lastChannel + 1) % 256) % 256) (Nat.mod_lt _ (by decide))
    have at_ : (m.lastChannel + ((n + 256 - (m.lastChannel + 1) % 256) % 256 + 1)) % 256 = n := by
      omega
    rw [iterate_add_one] at taken
    have unused : inUse m (m.lastChannel + ((n + 256 - (m.lastChannel + 1) % 256) % 256 + 1)) = false :=
      inUse_eq_false.mpr (by rw [at_]; exact free)
    rw [unused] at taken
    cases taken

/-! The invariant. -/

/-- Two clients share no channel, other than the -1 of those who have none. -/
def Apart (c d : Client) : Prop := c.channel = d.channel → c.channel = -1

instance : Std.Symm Apart where
  symm := fun _ _ h same => same.trans (h same.symm)

structure Inv (m : State) : Prop where
  ids : m.clients.Pairwise fun c d => c.id ≠ d.id
  below : ∀ c ∈ m.clients, c.id < m.connections
  range : ∀ c ∈ m.clients, c.channel = -1 ∨ 1 ≤ c.channel ∧ c.channel ≤ 255
  registered : ∀ c ∈ m.clients, c.registered = true → c.channel ≠ -1
  apart : m.clients.Pairwise Apart

theorem Inv.distinct (h : Inv m) : Distinct m where
  registered := by
    intro c hc registered
    exact (h.range c hc).resolve_left (h.registered c hc registered)
  distinct := h.apart.imp_of_mem fun hc _ apart registered _ same =>
    h.registered _ hc registered (apart same)
  reserved := by
    intro c hc
    have range := h.range c hc
    omega
  terminates := by
    refine terminates_iff.mpr ⟨0, by decide, ?_⟩
    intro c hc
    have range := h.range c hc
    omega

theorem Inv.serial (h : Inv m) (channel : Int) (data : List UInt8) :
    Inv (serialSend m channel data) := ⟨h.ids, h.below, h.range, h.registered, h.apart⟩

theorem Inv.free (h : Inv m) (i : Nat) : Inv (clientFree m i) where
  ids := h.ids.sublist List.filter_sublist
  below := fun c hc => h.below c (List.mem_of_mem_filter hc)
  range := fun c hc => h.range c (List.mem_of_mem_filter hc)
  registered := fun c hc => h.registered c (List.mem_of_mem_filter hc)
  apart := h.apart.sublist List.filter_sublist

theorem Inv.new (h : Inv m) : Inv (clientNew m) where
  ids := List.pairwise_cons.mpr ⟨fun c hc same => Nat.ne_of_lt (h.below c hc) same.symm, h.ids⟩
  below := by
    intro c hc
    cases List.mem_cons.mp hc with
    | inl same => exact same ▸ Nat.lt_succ_self m.connections
    | inr hc => exact Nat.lt_succ_of_lt (h.below c hc)
  range := by
    intro c hc
    cases List.mem_cons.mp hc with
    | inl same => exact Or.inl (same ▸ rfl)
    | inr hc => exact h.range c hc
  registered := by
    intro c hc
    cases List.mem_cons.mp hc with
    | inl same =>
      intro registered
      rw [same] at registered
      cases registered
    | inr hc => exact h.registered c hc
  apart := List.pairwise_cons.mpr ⟨fun _ _ _ => rfl, h.apart⟩

/-- A client may change as long as it keeps its number and has a channel of its own, or none. -/
structure Allowed (m : State) (c d : Client) : Prop where
  id : d.id = c.id
  range : d.channel = -1 ∨ 1 ≤ d.channel ∧ d.channel ≤ 255
  registered : d.registered = true → d.channel ≠ -1
  apart : ∀ e ∈ m.clients, e.id ≠ c.id → Apart d e

theorem Inv.modify (h : Inv m) {i : Nat} {f : Client → Client}
    (allowed : ∀ c ∈ m.clients, c.id = i → Allowed m c (f c)) : Inv (modify m i f) := by
  have member : ∀ {P : Client → Prop}, (∀ c ∈ m.clients, P c) →
      (∀ c ∈ m.clients, c.id = i → P (f c)) → ∀ c ∈ (Multiplexer.modify m i f).clients, P c := by
    intro P old new c hc
    obtain ⟨d, hd, rfl⟩ := List.mem_map.mp hc
    split_ifs with same
    · exact new d hd same
    · exact old d hd
  refine ⟨List.pairwise_map.mpr (h.ids.imp_of_mem ?_), ?_, ?_, ?_,
    List.pairwise_map.mpr ((h.ids.and h.apart).imp_of_mem ?_)⟩
  · intro c d hc hd ne
    split_ifs with first second second
    · exact absurd (first.trans second.symm) ne
    · rwa [(allowed c hc first).id]
    · rwa [(allowed d hd second).id]
    · exact ne
  · exact member h.below fun c hc same => (allowed c hc same).id ▸ h.below c hc
  · exact member h.range fun c hc same => (allowed c hc same).range
  · exact member h.registered fun c hc same => (allowed c hc same).registered
  · intro c d hc hd ⟨ne, apart⟩
    split_ifs with first second second
    · exact absurd (first.trans second.symm) ne
    · exact (allowed c hc first).apart d hd ne.symm
    · exact symm ((allowed d hd second).apart c hc ne)
    · exact apart

theorem client_some {i : Nat} {c : Client} (h : client m i = some c) : c ∈ m.clients ∧ c.id = i :=
  ⟨List.mem_of_find?_eq_some h, by simpa using List.find?_some h⟩

theorem findClient_some {channel : Int} {c : Client} (h : findClient m channel = some c) :
    c ∈ m.clients ∧ c.channel = channel :=
  ⟨List.mem_of_find?_eq_some h, by simpa using List.find?_some h⟩

theorem Inv.eq_of_id (h : Inv m) {c d : Client} (hc : c ∈ m.clients) (hd : d ∈ m.clients)
    (same : c.id = d.id) : c = d :=
  List.inj_on_of_nodup_map (List.pairwise_map.mpr h.ids) hc hd same

theorem Inv.apart_of_id (h : Inv m) {c d : Client} (hc : c ∈ m.clients) (hd : d ∈ m.clients)
    (other : d.id ≠ c.id) : Apart c d :=
  h.apart.forall hc hd fun same => other (congrArg Client.id same).symm

/-! What opening a channel does. -/

/-- The name of a service fits into a packet. -/
def Short (service : List UInt8) : Prop := (serviceName service).length + 11 < MAX_PAYLOAD

theorem length_connectText (service : List UInt8) (n : Nat) :
    (connectText service n).length = (serviceName service).length + 11 := by
  have front : (text "connect:").length = 8 := by decide
  have colon : (text ":").length = 1 := by decide
  rw [connectText, List.length_append, List.length_append, List.length_append, front, colon, hex2,
    List.length_cons, List.length_cons, List.length_nil]
  omega

/-- The first free channel in the order of the counter is found, and is given to the client unless
the name of the service is too long. -/
structure Opened (m : State) (service : List UInt8) (channel : Int) (m' : State) (k : Nat) : Prop where
  clients : m'.clients = m.clients
  connections : m'.connections = m.connections
  free : ∀ c ∈ m.clients, c.channel ≠ (((m.lastChannel + (k + 1)) % 256 : Nat) : Int)
  earlier : ∀ j < k, ∃ c ∈ m.clients, c.channel = (((m.lastChannel + (j + 1)) % 256 : Nat) : Int)
  short : Short service → channel = (((m.lastChannel + (k + 1)) % 256 : Nat) : Int)
  long : ¬ Short service → channel = -1

theorem openChannel_some {service : List UInt8} {channel : Int} {m' : State}
    (h : openChannel m service = some (channel, m')) : ∃ k < 256, Opened m service channel m' k := by
  unfold openChannel at h
  cases found : search (· + 1) (inUse m) 256 m.lastChannel with
  | none => simp [found] at h
  | some last =>
    obtain ⟨k, hk, at_, free, earlier⟩ := search_eq_some.mp found
    rw [iterate_add_one] at at_
    subst at_
    rw [found] at h
    dsimp only at h
    have free' := inUse_eq_false.mp free
    have earlier' : ∀ j < k, ∃ c ∈ m.clients,
        c.channel = (((m.lastChannel + (j + 1)) % 256 : Nat) : Int) := by
      intro j hj
      have taken := earlier j hj
      rw [iterate_add_one] at taken
      simpa [inUse] using taken
    rw [length_connectText] at h
    refine ⟨k, hk, ?_⟩
    split_ifs at h with long
    · obtain ⟨rfl, rfl⟩ := Prod.mk.inj (Option.some.inj h)
      exact ⟨rfl, rfl, free', earlier', fun short => absurd short (Nat.not_lt.mpr long), fun _ => rfl⟩
    · obtain ⟨rfl, rfl⟩ := Prod.mk.inj (Option.some.inj h)
      exact ⟨rfl, rfl, free', earlier', fun _ => rfl, fun not => absurd (Nat.not_le.mp long) not⟩

/-- A channel other than the one for control is left between the counter and 255. -/
def Left (m : State) : Prop :=
  ∃ n, m.lastChannel % 256 < n ∧ n ≤ 255 ∧ ∀ c ∈ m.clients, c.channel ≠ ((n : Nat) : Int)

/-- The control channel is met by the search behind all the channels that are left. -/
theorem left_iff (h : Inv m) {service : List UInt8} {channel : Int} {m' : State} {k : Nat}
    (opened : Opened m service channel m' k) (hk : k < 256) :
    Left m ↔ (m.lastChannel + (k + 1)) % 256 ≠ 0 := by
  constructor
  · intro ⟨n, above, below, unused⟩ zero
    have later : n - m.lastChannel % 256 - 1 < k := by omega
    obtain ⟨c, hc, same⟩ := opened.earlier _ later
    refine unused c hc (same.trans ?_)
    have at_ : (m.lastChannel + (n - m.lastChannel % 256 - 1 + 1)) % 256 = n := by omega
    rw [at_]
  · intro nonzero
    refine ⟨(m.lastChannel + (k + 1)) % 256, ?_, by omega, opened.free⟩
    by_contra passed
    have later : 255 - m.lastChannel % 256 < k := by omega
    obtain ⟨c, hc, same⟩ := opened.earlier _ later
    have at_ : (m.lastChannel + (255 - m.lastChannel % 256 + 1)) % 256 = 0 := by omega
    rw [at_] at same
    have range := h.range c hc
    omega

/-! The steps that leave the channels distinct. -/

/-- A client asks for a service whose name fits while a channel is left; and a control message whose
digits are malformed comes while every client has a channel. -/
def Fits (m : State) : Action → Prop
  | .receive i service => ∀ c, client m i = some c → c.registered = false → ¬ c.channel > 0 →
      Short service → Left m
  | .serial channel data => channel = 0 → (control data).isSome = true →
      hexadecimal (data.drop 11) = none → ∀ c ∈ m.clients, c.channel ≠ -1
  | .accept | .close _ => True

theorem Inv.congr {m' : State} (h : Inv m) (clients : m'.clients = m.clients)
    (connections : m'.connections = m.connections) : Inv m' := by
  obtain ⟨ids, below, range, registered, apart⟩ := h
  rw [← clients] at ids below range registered apart
  rw [← connections] at below
  exact ⟨ids, below, range, registered, apart⟩

theorem Opened.channel_neg_iff {service : List UInt8} {channel : Int} {m' : State} {k : Nat}
    (opened : Opened m service channel m' k) : channel < 0 ↔ ¬ Short service := by
  constructor
  · intro neg short
    have channel := opened.short short
    omega
  · intro long
    rw [opened.long long]
    decide

theorem Inv.receive {m' : State} (h : Inv m) {i : Nat} {data : List UInt8}
    (fits : Fits m (.receive i data)) (hs : clientFdReceive m i data = some m') : Inv m' := by
  unfold clientFdReceive at hs
  cases there : client m i with
  | none => simp [there] at hs
  | some c =>
    rw [there] at hs
    dsimp only at hs
    split_ifs at hs with registered waiting
    · exact Option.some.inj hs ▸ h.serial c.channel data
    · exact Option.some.inj hs ▸ h.free i
    · cases opens : openChannel m data with
      | none => simp [opens] at hs
      | some r =>
        obtain ⟨channel, m₁⟩ := r
        obtain ⟨k, hk, opened⟩ := openChannel_some opens
        have h₁ : Inv m₁ := h.congr opened.clients opened.connections
        rw [opens] at hs
        dsimp only at hs
        split_ifs at hs with neg
        · exact Option.some.inj hs ▸ h₁.free i
        · have short : Short data := not_not.mp (mt opened.channel_neg_iff.mpr neg)
          have at_ := opened.short short
          have nonzero := (left_iff h opened hk).mp
            (fits c there (by simpa using registered) waiting short)
          obtain rfl := Option.some.inj hs
          apply h₁.modify
          intro d hd same
          refine ⟨rfl, ?_, ?_, ?_⟩
          · exact Or.inr (by dsimp only; omega)
          · intro _
            dsimp only
            omega
          · intro e he other taken
            rw [opened.clients] at he
            exact absurd (taken.symm.trans at_) (opened.free e he)

theorem Inv.handled {m : State} (h : Inv m) {data : List UInt8} (fits : Fits m (.serial 0 data)) :
    Inv (handleControl m data) := by
  unfold handleControl
  cases hk : control data with
  | none => exact h
  | some kind =>
    dsimp only
    cases found : findClient m (hex2int (data.drop 11)) with
    | none => exact h
    | some c =>
      obtain ⟨hc, channel⟩ := findClient_some found
      have some_channel : c.channel ≠ -1 := by
        intro none
        cases digits : hexadecimal (data.drop 11) with
        | none => exact fits rfl (by rw [hk]; rfl) digits c hc none
        | some n =>
          rw [hex2int, digits] at channel
          dsimp only at channel
          omega
      have own : ∀ {d}, d ∈ m.clients → d.id = c.id → d = c := fun hd same => h.eq_of_id hd hc same
      cases kind with
      | okConnect =>
        apply h.modify
        intro d hd same
        obtain rfl := own hd same
        exact ⟨rfl, h.range d hd, fun _ => some_channel, fun e he => h.apart_of_id hd he⟩
      | koConnect =>
        apply h.modify
        intro d hd same
        exact ⟨rfl, Or.inl rfl, nofun, fun e he _ _ => rfl⟩
      | disconnect => exact h.free c.id

theorem step_inv {m' : State} {a : Action} (h : Inv m) (fits : Fits m a) (hs : step m a = some m') :
    Inv m' := by
  cases a with
  | accept => exact Option.some.inj hs ▸ h.new
  | receive i data => exact h.receive fits hs
  | close i =>
    change clientFdClose m i = some m' at hs
    unfold clientFdClose at hs
    cases there : client m i with
    | none => simp [there] at hs
    | some c =>
      rw [there] at hs
      obtain rfl := Option.some.inj hs
      split_ifs
      · exact (h.serial _ _).free i
      · exact h.free i
  | serial channel data =>
    obtain rfl := Option.some.inj hs
    unfold serialReceive
    split_ifs with zero
    · subst zero
      exact h.handled fits
    · cases found : findClient m channel with
      | none => exact h
      | some c =>
        apply h.modify
        intro d hd _
        exact ⟨rfl, h.range d hd, h.registered d hd, fun e he => h.apart_of_id hd he⟩

/-! The others are as they were. -/

theorem mem_modify {i : Nat} {f : Client → Client} {c : Client} (hc : c ∈ m.clients)
    (other : c.id ≠ i) : c ∈ (modify m i f).clients :=
  List.mem_map.mpr ⟨c, hc, if_neg other⟩

theorem mem_free {i : Nat} {c : Client} (hc : c ∈ m.clients) (other : c.id ≠ i) :
    c ∈ (clientFree m i).clients := List.mem_filter.mpr ⟨hc, by simpa using other⟩

theorem id_of_mem_modify {i : Nat} {f : Client → Client} (id : ∀ c, (f c).id = c.id) {c : Client}
    (hc : c ∈ (modify m i f).clients) : ∃ d ∈ m.clients, d.id = c.id := by
  obtain ⟨d, hd, rfl⟩ := List.mem_map.mp hc
  refine ⟨d, hd, ?_⟩
  split_ifs
  · exact (id d).symm
  · rfl

theorem handleControl_none {data : List UInt8} (h : control data = none) : handleControl m data = m := by
  rw [handleControl, h]

theorem named_some {data : List UInt8} {kind : Control} (h : control data = some kind) :
    named data = hexadecimal (data.drop 11) := by
  rw [named, h]

theorem only_named {data : List UInt8} (h : Inv m) (fits : Fits m (.serial 0 data)) :
    OnlyNamed m (handleControl m data) data := by
  cases kind : control data with
  | none =>
    rw [handleControl_none kind]
    exact ⟨fun c hc _ => hc, fun c hc => ⟨c, hc, rfl⟩⟩
  | some k =>
    cases found : findClient m (hex2int (data.drop 11)) with
    | none =>
      have same : handleControl m data = m := by rw [handleControl, kind, found]
      rw [same]
      exact ⟨fun c hc _ => hc, fun c hc => ⟨c, hc, rfl⟩⟩
    | some c =>
      obtain ⟨hc, channel⟩ := findClient_some found
      -- the client that is found is the one that is named
      have other : ∀ d ∈ m.clients, (∀ n : Nat, named data = some n → d.channel ≠ n) → d.id ≠ c.id := by
        intro d hd unnamed same
        obtain rfl := h.eq_of_id hd hc same
        rw [named_some kind] at unnamed
        cases digits : hexadecimal (data.drop 11) with
        | none =>
          rw [hex2int, digits] at channel
          exact fits rfl (by rw [kind]; rfl) digits d hd channel
        | some n =>
          rw [hex2int, digits] at channel
          exact unnamed n digits channel
      rw [handleControl, kind]
      dsimp only
      rw [found]
      cases k with
      | okConnect =>
        exact ⟨fun d hd unnamed => mem_modify hd (other d hd unnamed),
          fun d => id_of_mem_modify (f := fun c => c.registration true) fun _ => rfl⟩
      | koConnect =>
        exact ⟨fun d hd unnamed => mem_modify hd (other d hd unnamed),
          fun d => id_of_mem_modify (f := fun c => c.registration false) fun _ => rfl⟩
      | disconnect =>
        exact ⟨fun d hd unnamed => mem_free hd (other d hd unnamed),
          fun d hd => ⟨d, List.mem_of_mem_filter hd, rfl⟩⟩

/-- Whom a control message about a channel finds does not stay as it was. -/
theorem found_changes {data : List UInt8} {kind : Control} {c : Client} (h : Inv m)
    (hk : control data = some kind) (found : findClient m (hex2int (data.drop 11)) = some c) :
    c ∉ (handleControl m data).clients := by
  obtain ⟨hc, -⟩ := findClient_some found
  rw [handleControl, hk]
  dsimp only
  rw [found]
  have changed : ∀ registered, c ∉ (modify m c.id fun c => c.registration registered).clients := by
    intro registered there
    obtain ⟨d, hd, same⟩ := List.mem_map.mp there
    split_ifs at same with first
    · obtain rfl := h.eq_of_id hd hc first
      have length := congrArg (fun c => c.sent.length) same
      simp [Client.registration] at length
    · exact first (congrArg Client.id same)
  cases kind with
  | okConnect => exact changed true
  | koConnect => exact changed false
  | disconnect =>
    intro there
    simpa using (List.mem_filter.mp there).2

theorem fits_of_keeps {m' : State} {a : Action} (h : Inv m) (hs : step m a = some m')
    (keeps : Keeps m a) : Fits m a := by
  obtain ⟨distinct, only⟩ := keeps m' hs
  cases a with
  | accept => trivial
  | close i => trivial
  | receive i service =>
    intro c there registered waiting short
    change clientFdReceive m i service = some m' at hs
    unfold clientFdReceive at hs
    rw [there] at hs
    dsimp only at hs
    rw [if_neg (by simp [registered]), if_neg waiting] at hs
    cases opens : openChannel m service with
    | none => simp [opens] at hs
    | some r =>
      obtain ⟨channel, m₁⟩ := r
      obtain ⟨k, hk, opened⟩ := openChannel_some opens
      have nonneg : ¬ channel < 0 := mt opened.channel_neg_iff.mp (not_not.mpr short)
      rw [opens] at hs
      dsimp only at hs
      rw [if_neg nonneg] at hs
      obtain rfl := Option.some.inj hs
      obtain ⟨hc, id⟩ := client_some there
      have new : { c with channel := channel } ∈ (modify m₁ i fun c => { c with channel := channel }).clients :=
        List.mem_map.mpr ⟨c, opened.clients ▸ hc, if_pos id⟩
      have nonzero : channel ≠ 0 := distinct.reserved _ new
      rw [opened.short short] at nonzero
      exact (left_iff h opened hk).mpr (by omega)
  | serial channel data =>
    intro zero some_kind malformed c hc none
    subst zero
    obtain ⟨kind, hk⟩ := Option.isSome_iff_exists.mp some_kind
    obtain rfl := Option.some.inj hs
    cases found : findClient m (hex2int (data.drop 11)) with
    | none =>
      have channel : hex2int (data.drop 11) = -1 := by rw [hex2int, malformed]
      rw [channel] at found
      simpa [none] using List.find?_eq_none.mp found c hc
    | some d =>
      obtain ⟨hd, -⟩ := findClient_some found
      refine found_changes h hk found ((only data rfl).kept d hd ?_)
      intro n name
      rw [named_some hk, malformed] at name
      cases name

/-- The channels stay distinct, nobody gets the control channel, and control messages reach whom
they name, exactly in the runs whose steps all fit. -/
theorem channels_distinct_iff (as : List Action) :
    Distinct init ∧ Along step Keeps init as ↔ Along step Fits init as := by
  have start : Inv init :=
    ⟨List.Pairwise.nil, nofun, nofun, nofun, List.Pairwise.nil⟩
  rw [and_iff_right start.distinct]
  refine (along_iff (I := Inv) (fun _ _ _ h fits hs => step_inv h fits hs) ?_ as start).symm
  intro m a m' h hs
  constructor
  · intro fits m₂ hs₂
    refine ⟨(step_inv h fits hs₂).distinct, ?_⟩
    intro data serial
    subst serial
    obtain rfl := Option.some.inj hs₂
    exact only_named h fits
  · exact fits_of_keeps h hs

/-- A client has connected and not yet asked for a service when a confirmation with malformed digits
comes. -/
def malformed : List Action := [.accept, .serial 0 (text "ok:connect:zz")]

theorem malformed_registers :
    ¬ ∀ as : List Action, Distinct init ∧ Along step Keeps init as := by
  intro h
  have fits := (h malformed).2
  obtain ⟨-, rest⟩ := fits _ rfl
  have distinct := ((rest _ rfl).1 _ rfl).1
  have range := distinct.registered ⟨0, -1, true, [text "OK"]⟩ (by decide) rfl
  exact absurd range.1 (by decide)

end Anbox.Qemud.Multiplexer
