import Anbox.Rpc.SessionDelivery

namespace Anbox.Rpc.Session

open Anbox.Framework
open MessageProcessor (HeaderCut)

variable {κ : Type} [DecidableEq κ] {B : Bridge κ} {s t : State κ}

/-- The step is one of a reading thread, not of a thread that calls or sends an event. -/
def Action.reads : Action κ → Bool
  | .call _ _ | .sendEvent _ _ => false
  | _ => true

/-- Both ends with at most so much left to do. -/
def Owes (B : Bridge κ) (n : Nat) (s : State κ) : Prop :=
  ∃ out back, Between B .host (s .host) (s .container) out back ∧
    work B .host (s .host) (s .container) out back ≤ n

theorem owes_of (side : Side) {n : Nat} {out back : List (Parcel κ)}
    (h : Between B side (s side) (s side.other) out back)
    (bound : work B side (s side) (s side.other) out back ≤ n) : Owes B n s := by
  cases side with
  | host => exact ⟨out, back, h, bound⟩
  | container =>
    refine ⟨back, out, h.symm, ?_⟩
    rwa [← work_symm] at bound

theorem Owes.from {n : Nat} (h : Owes B n s) (side : Side) :
    ∃ out back, Between B side (s side) (s side.other) out back ∧
      work B side (s side) (s side.other) out back ≤ n := by
  obtain ⟨out, back, between, bound⟩ := h
  cases side with
  | host => exact ⟨out, back, between, bound⟩
  | container =>
    refine ⟨back, out, between.symm, ?_⟩
    rwa [← work_symm] at bound

/-- Where both ends change. -/
theorem owes_update₂ (side : Side) {p o : Peer κ} {n : Nat} {out back : List (Parcel κ)}
    (h : Between B side p o out back) (bound : work B side p o out back ≤ n) :
    Owes B n (Function.update (Function.update s side.other o) side p) := by
  let t := Function.update (Function.update s side.other o) side p
  have own : t side = p := Function.update_self ..
  have other : t side.other = o :=
    (Function.update_of_ne side.other_ne ..).trans (Function.update_self ..)
  have here : Between B side (t side) (t side.other) out back := by rwa [own, other]
  apply owes_of side here
  rwa [own, other]

/-- Where one end changes alone. -/
theorem owes_update (side : Side) {p : Peer κ} {n : Nat} {out back : List (Parcel κ)}
    (h : Between B side p (s side.other) out back)
    (bound : work B side p (s side.other) out back ≤ n) : Owes B n (Function.update s side p) := by
  have both := owes_update₂ (s := s) side h bound
  rwa [Function.update_eq_self] at both

/-- A step of a reading thread leaves less to do; the others may leave more. -/
theorem step_owes {n : Nat} {a : Action κ} (h : Owes B n s) (orderly : Orderly s a)
    (hs : step B.ends s a = some t) : ∃ m, Owes B m t ∧ (a.reads = true → m < n) := by
  cases a with
  | call side a =>
    obtain ⟨p, hp, rfl⟩ := Option.map_eq_some_iff.mp hs
    obtain ⟨pendingCalls, stepped, called⟩ := Option.bind_eq_some_iff.mp hp
    obtain ⟨out, back, between, -⟩ := h.from side
    have prepared (front : prepares a) : Owes B (work B side ((s side).withCalls pendingCalls)
        (s side.other) out back) (Function.update s side ((s side).withCalls pendingCalls)) :=
      owes_update side (between.prepare front orderly stepped) (Nat.le_refl _)
    cases a with
    | readId c => exact ⟨_, Option.some.inj called ▸ prepared rfl, nofun⟩
    | writeId c => exact ⟨_, Option.some.inj called ▸ prepared rfl, nofun⟩
    | saveCompletionDetails c => exact ⟨_, Option.some.inj called ▸ prepared rfl, nofun⟩
    | send c =>
      cases PendingCallCache.step_cases stepped with
      | @send _ id hc =>
        dsimp only at called
        rw [hc] at called
        obtain ⟨buffer, hb, rfl⟩ := Option.map_eq_some_iff.mp called
        exact ⟨_, owes_update side (between.send hc stepped hb) (Nat.le_refl _), nofun⟩
    | sendRaises c => cases called
    | forceCompletion c => cases called
    | populateMessageForResult id result => cases called
    | completeResponse => cases called
    | complete => cases called
  | sendEvent side event =>
    obtain ⟨buffer, hb, rfl⟩ := Option.map_eq_some_iff.mp hs
    obtain ⟨out, back, between, -⟩ := h.from side
    exact ⟨_, owes_update side (between.sendEvent orderly hb) (Nat.le_refl _), nofun⟩
  | receive side k =>
    obtain ⟨⟨outside, -, some, there⟩, same⟩ := Option.ite_none_right_eq_some.mp hs
    obtain ⟨out, back, between, bound⟩ := h.from side
    have less := work_receive B side (s side) (s side.other) out back outside some there
    refine ⟨_, ?_, fun _ => Nat.lt_of_lt_of_le less bound⟩
    rw [← Option.some.inj same]
    exact owes_update₂ side (between.receive k orderly) (Nat.le_refl _)
  | pass side =>
    obtain ⟨⟨inside, -, idle⟩, same⟩ := Option.ite_none_right_eq_some.mp hs
    obtain ⟨out, back, between, bound⟩ := h.from side
    obtain ⟨out', back', after, less⟩ := between.pass inside idle
    rw [← Option.some.inj same]
    exact ⟨_, owes_update side after (Nat.le_refl _), fun _ => Nat.lt_of_lt_of_le less bound⟩
  | completeResponse side =>
    obtain ⟨pendingCalls, stepped, rfl⟩ := Option.map_eq_some_iff.mp hs
    obtain ⟨out, back, between, bound⟩ := h.from side
    obtain ⟨after, less⟩ := between.completeResponse stepped
    exact ⟨_, owes_update side after (Nat.le_refl _), fun _ => Nat.lt_of_lt_of_le less bound⟩
  | complete side =>
    obtain ⟨pendingCalls, stepped, rfl⟩ := Option.map_eq_some_iff.mp hs
    obtain ⟨out, back, between, bound⟩ := h.from side
    obtain ⟨after, less⟩ := between.complete stepped
    exact ⟨_, owes_update side after (Nat.le_refl _), fun _ => Nat.lt_of_lt_of_le less bound⟩

theorem owes_init (B : Bridge κ) : ∃ n, Owes B n (init : State κ) := by
  obtain ⟨out, back, between⟩ := conveys_init B .host
  exact ⟨_, out, back, between, Nat.le_refl _⟩

theorem run_owes {as : List (Action κ)} (hr : run (step B.ends) init as = some t)
    (orderly : Along (step B.ends) Orderly init as) : ∃ n, Owes B n t := by
  apply invariant_run (I := fun s => ∃ n, Owes B n s) _ (owes_init B) orderly hr
  intro s a t h ha hs
  obtain ⟨n, owes⟩ := h
  obtain ⟨m, after, -⟩ := step_owes owes ha hs
  exact ⟨m, after⟩

/-! What holds of the calls and events whatever the interleaving. -/

/-- A call that has completed. -/
theorem Calls.completed {answer : κ → List UInt8} {s : PendingCallCache.State κ (List UInt8)}
    {out back : List (Parcel κ)} (h : Calls answer s out back) {c : κ} (ran : 0 < s.runs c) :
    (∃ id, s.calling c = .saved id .sent) ∧ (s.response c).map Prod.snd = [answer c] := by
  refine ⟨?_, h.filled c (Or.inr ran)⟩
  by_contra unsent
  have none := h.unsent c fun id hc => unsent ⟨id, hc⟩
  rw [places] at none
  omega

/-- Calls in both directions, events, reads that end anywhere between two headers: no exception leaves a
message processor, and none reads behind its buffer; each end dispatches the calls of the other in the
order in which they were sent, each once, and is given its events so; and a call completes at most
once, only when it has been sent, and with what the other end has answered to it. -/
theorem session_delivers (B : Bridge κ) {as : List (Action κ)} {t : State κ}
    (hr : run (step B.ends) init as = some t) (orderly : Along (step B.ends) Orderly init as)
    (side : Side) :
    (t side).failed = false ∧
    (t side.other).executed <+: (t side).requests (B.ends side) ∧
    (t side.other).env.events <+: (t side).notified ∧
    ((t side).sent.map Prod.snd).Nodup ∧
    ∀ c, (t side).env.pendingCalls.runs c ≤ 1 ∧
      (0 < (t side).env.pendingCalls.runs c → (∃ id, (id, c) ∈ (t side).sent) ∧
        ((t side).env.pendingCalls.response c).map Prod.snd = [B.answer side c]) := by
  obtain ⟨n, owes⟩ := run_owes hr orderly
  obtain ⟨out, back, between, -⟩ := owes.from side
  refine ⟨between.reader.sound, ⟨_, between.there.executed⟩, ⟨_, between.there.events⟩,
    between.there.once, fun c => ⟨between.calls.linked.once c, fun ran => ?_⟩⟩
  obtain ⟨⟨id, sent⟩, answered⟩ := between.calls.completed ran
  exact ⟨⟨id, (between.there.sent c id).mp sent⟩, answered⟩

/-! All that has been sent arrives. -/

/-- Everything that one end has sent has been handled at the other, and its calls have completed. -/
structure Settled (B : Bridge κ) (side : Side) (p o : Peer κ) : Prop where
  executed : o.executed = p.requests (B.ends side)
  events : o.env.events = p.notified
  completed : ∀ id c, (id, c) ∈ p.sent → p.env.pendingCalls.runs c = 1 ∧
    (p.env.pendingCalls.response c).map Prod.snd = [B.answer side c]

variable {side : Side} {p o : Peer κ} {out back : List (Parcel κ)}

omit [DecidableEq κ] in
/-- Where nothing stands on the wire and no whole frame in the buffer, nothing is under way. -/
theorem Direction.empty (h : Direction B side p o out) (wire : p.env.wire = [])
    (none : nextFrame o.buffer_ = none) : out = [] := by
  have bytes := h.bytes
  rw [wire, List.append_nil] at bytes
  cases out with
  | nil => rfl
  | cons x rest =>
    have read := nextFrame_parcel (h.fits x List.mem_cons_self) (rest.flatMap (Parcel.bytes B side))
    rw [← List.flatMap_cons, ← bytes, none] at read
    cases read

theorem Between.settled (h : Between B side p o out back) (wire : p.env.wire = [])
    (wire' : o.env.wire = []) (outside : p.processing = false) (outside' : o.processing = false) :
    Settled B side p o := by
  obtain ⟨none, idle⟩ := h.reader.waits outside
  obtain ⟨none', -⟩ := h.other.waits outside'
  obtain rfl := h.there.empty wire none'
  obtain rfl := h.here.empty wire' none
  have executed := h.there.executed
  have events := h.there.events
  rw [List.filterMap_nil, List.append_nil] at executed events
  refine ⟨executed, events, fun id c sent => ?_⟩
  have one := h.calls.sent c id ((h.there.sent c id).mpr sent)
  have nothing : handling p.env.pendingCalls = Option.none := by rw [handling, idle]
  rw [places, List.countP_nil, List.countP_nil, nothing,
    if_neg (Option.some_ne_none c).symm] at one
  exact ⟨by omega, h.calls.filled c (Or.inr (by omega))⟩

omit [DecidableEq κ] in
/-- A read that takes all there is does not end inside a header. -/
theorem Direction.whole (h : Direction B side p o out) :
    ¬ HeaderCut (rpcFrames.rest (o.buffer_ ++ p.env.wire)).length := by
  have empty : rpcFrames.rest (o.buffer_ ++ p.env.wire) = [] := by
    rw [h.bytes]
    have fits := h.fits
    clear h
    induction out with
    | nil => exact rest_wait rfl
    | cons x rest ih =>
      rw [List.flatMap_cons, rest_frame (nextFrame_parcel (fits x List.mem_cons_self) _)]
      exact ih fun y hy => fits y (List.mem_cons_of_mem _ hy)
  rw [empty]
  exact fun cut => absurd cut.1 (Nat.lt_irrefl 0)

/-- Until both ends have settled a reading thread can take a step. -/
theorem Owes.next {n : Nat} (h : Owes B n s) :
    (∃ a : Action κ, a.reads = true ∧ Orderly s a ∧ (step B.ends s a).isSome = true) ∨
      ∀ side, Settled B side (s side) (s side.other) := by
  have running (side : Side) (inside : (s side).processing = true) :
      ∃ a : Action κ, a.reads = true ∧ Orderly s a ∧ (step B.ends s a).isSome = true := by
    obtain ⟨out, back, between, -⟩ := h.from side
    cases reading : (s side).env.pendingCalls.reading with
    | idle =>
      refine ⟨.pass side, rfl, trivial, ?_⟩
      rw [step, if_pos ⟨inside, between.reader.sound, reading⟩]
      rfl
    | populated id =>
      refine ⟨.completeResponse side, rfl, trivial, ?_⟩
      rw [step, PendingCallCache.step, reading]
      rfl
    | completing id completion =>
      refine ⟨.complete side, rfl, trivial, ?_⟩
      rw [step, PendingCallCache.step, reading]
      rfl
  have written (side : Side) (outside : (s side).processing = false)
      (some : (s side.other).env.wire ≠ []) :
      ∃ a : Action κ, a.reads = true ∧ Orderly s a ∧ (step B.ends s a).isSome = true := by
    obtain ⟨out, back, between, -⟩ := h.from side
    refine ⟨.receive side (s side.other).env.wire.length, rfl, ?_, ?_⟩
    · rw [Orderly, List.take_length]
      exact between.here.whole
    · rw [step, if_pos ⟨outside, between.reader.sound, List.length_pos_iff.mpr some, Nat.le_refl _⟩]
      rfl
  cases host : (s .host).processing with
  | true => exact Or.inl (running .host host)
  | false =>
    cases container : (s .container).processing with
    | true => exact Or.inl (running .container container)
    | false =>
      by_cases wire : (s .host).env.wire = []
      · by_cases wire' : (s .container).env.wire = []
        · right
          intro side
          obtain ⟨out, back, between, -⟩ := h.from side
          cases side with
          | host => exact between.settled wire wire' host container
          | container => exact between.settled wire' wire container host
        · exact Or.inl (written .host host wire')
      · exact Or.inl (written .container container wire)

/-- When nothing more is sent, the reading threads come to an end, in whatever order they take their
steps, and not before all calls of both ends have completed with their answers and all events have
been handed over. -/
theorem session_settles (B : Bridge κ) {as : List (Action κ)} {t : State κ}
    (hr : run (step B.ends) init as = some t) (orderly : Along (step B.ends) Orderly init as) :
    ∃ n, ∀ bs u, run (step B.ends) t bs = some u → Along (step B.ends) Orderly t bs →
      (∀ a ∈ bs, a.reads = true) →
      bs.length ≤ n ∧
      ((∃ a : Action κ, a.reads = true ∧ Orderly u a ∧ (step B.ends u a).isSome = true) ∨
        ∀ side, Settled B side (u side) (u side.other)) := by
  obtain ⟨n, owes⟩ := run_owes hr orderly
  clear hr orderly
  refine ⟨n, fun bs u hu along reads => ?_⟩
  induction bs generalizing n t with
  | nil =>
    obtain rfl := Option.some.inj hu
    exact ⟨Nat.zero_le n, owes.next⟩
  | cons a bs ih =>
    obtain ⟨v, hv, hu⟩ := run_cons hu
    obtain ⟨first, later⟩ := List.forall_mem_cons.mp reads
    obtain ⟨first_orderly, rest⟩ := along v hv
    obtain ⟨m, after, less⟩ := step_owes owes first_orderly hv
    obtain ⟨bound, next⟩ := ih m after hu rest later
    refine ⟨?_, next⟩
    rw [List.length_cons]
    exact Nat.lt_of_le_of_lt bound (less first)

/-! The session manager resizes a task, and the container asks for the clipboard. -/

def platform : PlatformApiSkeleton := ⟨echo, echo⟩

def android : AndroidApiSkeleton := ⟨echo, echo, echo, echo⟩

def ends : Side → Endpoint Bool
  | .host => ⟨fun _ => "resize_task", fun c => [if c then 1 else 0], platform.methods⟩
  | .container => ⟨fun _ => "get_clipboard_data", fun _ => [], android.methods⟩

theorem length_lengthDelimited_le (tag : UInt8) (bytes : List UInt8) :
    (lengthDelimited tag bytes).length ≤ bytes.length + 11 := by
  have size := varintBytes_length_le 10 bytes.length
  simp only [lengthDelimited, varint, List.length_append, List.length_cons]
  omega

theorem length_invocation_le (m : Invocation) :
    m.serialize.length ≤ m.methodName.toUTF8.toList.length + m.parameters.length + 44 := by
  have id := varintBytes_length_le 10 m.id.toNat
  have version := varintBytes_length_le 10 m.protocolVersion.toNat
  have name := length_lengthDelimited_le 0x12 m.methodName.toUTF8.toList
  have parameters := length_lengthDelimited_le 0x1a m.parameters
  simp only [Invocation.serialize, varint, List.length_append, List.length_cons] at *
  omega

theorem length_response_le (id : UInt32) (bytes : List UInt8) :
    (Result.serialize ⟨some id, some bytes, []⟩).length ≤ bytes.length + 22 := by
  have number := varintBytes_length_le 10 id.toNat
  have response := length_lengthDelimited_le 0x12 bytes
  simp only [Result.serialize, Option.elim, varint, List.flatMap_nil, List.append_nil,
    List.length_append, List.length_cons]
  omega

theorem ends_small (side : Side) (c : Bool) :
    ((ends side).methodName c).toUTF8.toList.length ≤ 18 ∧ ((ends side).parameters c).length ≤ 1 := by
  have size (name : String) : name.toUTF8.toList.length = name.utf8ByteSize := by
    rw [String.toUTF8_eq_toByteArray, ByteArray.toList, toList_loop]
    simp
  cases side with
  | host => exact ⟨(size "resize_task").trans_le (by decide), by simp [ends]⟩
  | container => exact ⟨(size "get_clipboard_data").trans_le (by decide), by simp [ends]⟩

theorem responseOf_echo {methods : List (String × Method)} {name : String}
    (found : methods.lookup name = some echo) (parameters : List UInt8) :
    responseOf methods name parameters = some parameters := by
  rw [responseOf, found]
  rfl

def bridge : Bridge Bool where
  ends := ends
  answer side c := (ends side).parameters c
  answers side c := by
    cases side with
    | host =>
      have found : android.methods.lookup "resize_task" = some echo := by
        simp [android, AndroidApiSkeleton.methods, List.lookup_cons]
      exact responseOf_echo found _
    | container =>
      have found : platform.methods.lookup "get_clipboard_data" = some echo := by
        simp [platform, PlatformApiSkeleton.methods, List.lookup_cons]
      exact responseOf_echo found _
  invocation_fits side id c := by
    obtain ⟨name, parameters⟩ := ends_small side c
    have bound := length_invocation_le
      (Channel.invocationFor id ((ends side).methodName c) ((ends side).parameters c))
    refine Nat.lt_of_le_of_lt bound ?_
    change ((ends side).methodName c).toUTF8.toList.length +
      ((ends side).parameters c).length + 44 < 2^24
    omega
  response_fits side id c := by
    obtain ⟨-, parameters⟩ := ends_small side c
    exact Nat.lt_of_le_of_lt (length_response_le id ((ends side).parameters c)) (by omega)

def calling (side : Side) (c : Bool) : List (Action Bool) :=
  [.call side (.readId c), .call side (.writeId c), .call side (.saveCompletionDetails c),
    .call side (.send c)]

/-- Both ends have called, and nothing has been read. -/
def resizing : List (Action Bool) := calling .host true ++ calling .container false

/-- The container is given the invocation in two parts, and the host the response behind the other
invocation. -/
def reading : List (Action Bool) :=
  [.receive .container 10, .pass .container, .receive .container 14, .pass .container,
    .pass .container, .receive .host 39, .pass .host, .pass .host, .completeResponse .host,
    .complete .host, .pass .host, .receive .container 8, .pass .container,
    .completeResponse .container, .complete .container, .pass .container]

theorem run_resized : ((run (step bridge.ends) init (resizing ++ reading)).map fun t =>
    ((t .host).env.pendingCalls.runs true, (t .container).env.pendingCalls.runs false)) =
      some (1, 1) := by
  decide +kernel

theorem resized_orderly : Along (step bridge.ends) Orderly init (resizing ++ reading) := by
  decide +kernel

/-- Both calls are dispatched and complete. -/
theorem resizing_delivers : ∃ t, run (step bridge.ends) init (resizing ++ reading) = some t ∧
    (t .host).env.pendingCalls.runs true = 1 ∧ (t .container).env.pendingCalls.runs false = 1 ∧
    ∀ side, (t side).failed = false ∧
      (t side.other).executed <+: (t side).requests (bridge.ends side) ∧
      ∀ c, 0 < (t side).env.pendingCalls.runs c → (∃ id, (id, c) ∈ (t side).sent) ∧
        ((t side).env.pendingCalls.response c).map Prod.snd = [bridge.answer side c] := by
  obtain ⟨t, ht, ran⟩ := Option.map_eq_some_iff.mp run_resized
  obtain ⟨resized, copied⟩ := Prod.mk.inj ran
  refine ⟨t, ht, resized, copied, fun side => ?_⟩
  obtain ⟨sound, executed, -, -, calls⟩ := session_delivers bridge ht resized_orderly side
  exact ⟨sound, executed, fun c => (calls c).2⟩

/-- The reading threads get to the end with what is left. -/
theorem resizing_settles : ∃ t u n, run (step bridge.ends) init resizing = some t ∧
    run (step bridge.ends) t reading = some u ∧ reading.length ≤ n ∧
    ((∃ a : Action Bool, a.reads = true ∧ Orderly u a ∧ (step bridge.ends u a).isSome = true) ∨
      ∀ side, Settled bridge side (u side) (u side.other)) := by
  obtain ⟨u, hu, -⟩ := Option.map_eq_some_iff.mp run_resized
  rw [run_append] at hu
  obtain ⟨t, ht, hu⟩ := Option.bind_eq_some_iff.mp hu
  obtain ⟨n, settles⟩ := session_settles bridge ht resized_orderly.of_append
  obtain ⟨bound, settled⟩ := settles reading u hu (resized_orderly.append ht) (by decide)
  exact ⟨t, u, n, ht, hu, bound, settled⟩

end Anbox.Rpc.Session
