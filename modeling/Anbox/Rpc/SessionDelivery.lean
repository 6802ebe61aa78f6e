import Anbox.Rpc.SessionCalls

namespace Anbox.Rpc.Session

open Anbox.Framework
open MessageProcessor (HeaderCut)

variable {κ : Type} [DecidableEq κ]

/-! What is under way, as messages and as bytes. -/

def Parcel.fits (B : Bridge κ) (side : Side) (p : Parcel κ) : Prop :=
  (p.outgoing B side).message.payload.length < 2^24

omit [DecidableEq κ] in
/-- The frame of a parcel, and nothing else, is read back at the other end. -/
theorem nextFrame_parcel {B : Bridge κ} {side : Side} {p : Parcel κ} (fits : p.fits B side)
    (b : List UInt8) :
    nextFrame (p.bytes B side ++ b) = some (⟨(p.outgoing B side).message, fits⟩, b) :=
  nextFrame_bytes ⟨(p.outgoing B side).message, fits⟩ b

omit [DecidableEq κ] in
/-- The buffer that such bytes are given to becomes the bytes of the parcel. -/
theorem buffer_parcel {B : Bridge κ} {side : Side} {p : Parcel κ} {b : List UInt8}
    (h : (p.outgoing B side).buffer = some b) : b = p.bytes B side :=
  Outgoing.buffer_eq h

omit [DecidableEq κ] in
theorem send_response_bytes {B : Bridge κ} (side : Side) (id : UInt32) (c : κ) :
    sendBuffer .response
      (Result.serialize ⟨some id, some (B.answer side.other c), []⟩) =
        some (Parcel.bytes B side (.response id c)) := by
  have fits := B.response_fits side.other id c
  have small : (Result.serialize ⟨some id, some (B.answer side.other c), []⟩).length < 2^31 :=
    Nat.lt_trans fits (by decide)
  rw [sendBuffer, if_pos small]
  rfl

/-- The invocation a parcel carries, and the event. -/
def Parcel.invocation? (B : Bridge κ) (side : Side) : Parcel κ → Option Invocation
  | .invocation id c =>
    some (Channel.invocationFor id ((B.ends side).methodName c) ((B.ends side).parameters c))
  | _ => none

def Parcel.event? : Parcel κ → Option (List UInt8)
  | .event bytes => some bytes
  | _ => none

/-- The invocations of the calls that have been sent. -/
def Peer.requests (e : Endpoint κ) (p : Peer κ) : List Invocation :=
  p.sent.map fun x => Channel.invocationFor x.1 (e.methodName x.2) (e.parameters x.2)

/-- From one end to the other: what is under way is what stands in the buffer there and has been
written here, and with what has been dispatched there it makes up all that was sent. -/
structure Direction (B : Bridge κ) (side : Side) (p o : Peer κ) (out : List (Parcel κ)) : Prop where
  bytes : o.buffer_ ++ p.env.wire = out.flatMap (Parcel.bytes B side)
  fits : ∀ x ∈ out, x.fits B side
  executed : o.executed ++ out.filterMap (Parcel.invocation? B side) = p.requests (B.ends side)
  events : o.env.events ++ out.filterMap Parcel.event? = p.notified
  once : (p.sent.map Prod.snd).Nodup
  sent : ∀ c id, p.env.pendingCalls.calling c = .saved id .sent ↔ (id, c) ∈ p.sent

/-- The reading thread: it never stops inside a header, and outside of `processData` it has left no
frame and no result behind. -/
structure Reader (p : Peer κ) : Prop where
  sound : p.failed = false
  uncut : ¬ HeaderCut (rpcFrames.rest p.buffer_).length
  waits : p.processing = false →
    nextFrame p.buffer_ = none ∧ p.env.pendingCalls.reading = .idle

/-- Both ends, seen from one of them. -/
structure Between (B : Bridge κ) (side : Side) (p o : Peer κ) (out back : List (Parcel κ)) :
    Prop where
  there : Direction B side p o out
  here : Direction B side.other o p back
  calls : Calls (B.answer side) p.env.pendingCalls out back
  others : Calls (B.answer side.other) o.env.pendingCalls back out
  reader : Reader p
  other : Reader o

theorem Between.symm {B : Bridge κ} {side : Side} {p o : Peer κ} {out back : List (Parcel κ)}
    (h : Between B side p o out back) : Between B side.other o p back out := by
  obtain ⟨there, here, calls, others, reader, other⟩ := h
  rw [← side.other_other] at there calls
  exact ⟨here, there, others, calls, other, reader⟩

def Conveys (B : Bridge κ) (s : State κ) : Prop :=
  ∀ side, ∃ out back, Between B side (s side) (s side.other) out back

theorem conveys_of {B : Bridge κ} {s : State κ} (side : Side) {out back : List (Parcel κ)}
    (h : Between B side (s side) (s side.other) out back) : Conveys B s := by
  intro d
  rcases side.eq_or_other d with rfl | rfl
  · exact ⟨out, back, h⟩
  · refine ⟨back, out, ?_⟩
    rw [side.other_other]
    exact h.symm

theorem conveys_init (B : Bridge κ) : Conveys B (init : State κ) := by
  have direction (side : Side) : Direction B side (init side) (init side.other) [] :=
    ⟨rfl, nofun, rfl, rfl, List.nodup_nil, fun c id => iff_of_false nofun List.not_mem_nil⟩
  have reader (side : Side) : Reader (init side : Peer κ) := by
    refine ⟨rfl, ?_, fun _ => ⟨rfl, rfl⟩⟩
    rw [show (init side : Peer κ).buffer_ = [] from rfl, rest_wait rfl]
    exact fun cut => absurd cut.1 (Nat.lt_irrefl 0)
  have between : Between B .host (init .host) (init .container) [] [] :=
    ⟨direction .host, direction .container, calls_init _, calls_init _, reader .host, reader .container⟩
  exact conveys_of .host between

/-! What each step does to the two ends. -/

variable {B : Bridge κ} {side : Side} {p o : Peer κ} {out back : List (Parcel κ)}

theorem calling_prepare {s t : PendingCallCache.State κ (List UInt8)}
    {a : PendingCallCache.Action κ (List UInt8)} (front : prepares a)
    (hs : PendingCallCache.step s a = some t) (c : κ) (id : UInt32) :
    t.calling c = .saved id .sent ↔ s.calling c = .saved id .sent := by
  cases PendingCallCache.step_cases hs with
  | readId hd =>
    exact unsent_enter (fun i e => by rw [hd] at e; cases e) (fun i e => by cases e) c id
  | writeId hd =>
    exact unsent_enter (fun i e => by rw [hd] at e; cases e) (fun i e => by cases e) c id
  | save hd =>
    exact unsent_enter (fun i e => by rw [hd] at e; cases e) (fun i e => by cases e) c id
  | send => cases front
  | sendRaises => cases front
  | force => cases front
  | populate => cases front
  | unknown => cases front
  | take => cases front
  | complete => cases front

theorem Between.prepare (h : Between B side p o out back)
    {a : PendingCallCache.Action κ (List UInt8)} (front : prepares a)
    (fresh : PendingCallCache.FreshId p.env.pendingCalls a)
    {t : PendingCallCache.State κ (List UInt8)}
    (hs : PendingCallCache.step p.env.pendingCalls a = some t) :
    Between B side (p.withCalls t) o out back := by
  have reading : t.reading = p.env.pendingCalls.reading :=
    PendingCallCache.caller_reading hs (by cases a <;> first | rfl | cases front)
  refine ⟨⟨h.there.bytes, h.there.fits, h.there.executed, h.there.events, h.there.once,
    fun c id => (calling_prepare front hs c id).trans (h.there.sent c id)⟩,
    ⟨h.here.bytes, h.here.fits, h.here.executed, h.here.events, h.here.once, h.here.sent⟩,
    h.calls.prepare front fresh hs, h.others,
    ⟨h.reader.sound, h.reader.uncut, fun outside => ?_⟩, h.other⟩
  · obtain ⟨none, idle⟩ := h.reader.waits outside
    exact ⟨none, reading.trans idle⟩

theorem Between.send (h : Between B side p o out back) {c : κ} {id : UInt32}
    (hc : p.env.pendingCalls.calling c = .saved id .sending)
    {t : PendingCallCache.State κ (List UInt8)}
    (hs : PendingCallCache.step p.env.pendingCalls (.send c) = some t) {buffer : List UInt8}
    (hb : ((B.ends side).outgoing id c).buffer = some buffer) :
    Between B side { (p.withCalls t).write buffer with sent := p.sent ++ [(id, c)] } o
      (out ++ [.invocation id c]) back := by
  obtain ⟨calls, own, others⟩ := h.calls.send hc hs
  have bytes : buffer = Parcel.bytes B side (.invocation id c) :=
    buffer_parcel (p := .invocation id c) hb
  have reading : t.reading = p.env.pendingCalls.reading := PendingCallCache.caller_reading hs rfl
  have unsent : c ∉ p.sent.map Prod.snd := by
    intro hm
    obtain ⟨⟨i, d⟩, hx, same⟩ := List.mem_map.mp hm
    have was := (h.there.sent d i).mpr hx
    rw [show d = c from same, hc] at was
    cases was
  refine ⟨⟨?_, ?_, ?_, ?_, ?_, ?_⟩,
    ⟨h.here.bytes, h.here.fits, h.here.executed, h.here.events, h.here.once, h.here.sent⟩, calls,
    h.others.append_back fun _ => rfl, ⟨h.reader.sound, h.reader.uncut, fun outside => ?_⟩, h.other⟩
  · change o.buffer_ ++ (p.env.wire ++ buffer) = _
    rw [← List.append_assoc, h.there.bytes, bytes, List.flatMap_append, List.flatMap_singleton]
  · intro x hx
    rcases List.mem_append.mp hx with before | new
    · exact h.there.fits x before
    · cases List.mem_singleton.mp new
      exact B.invocation_fits side id c
  · rw [List.filterMap_append, ← List.append_assoc, h.there.executed, Peer.requests, Peer.requests,
      List.map_append]
    rfl
  · rw [List.filterMap_append, ← List.append_assoc, h.there.events]
    exact List.append_nil _
  · rw [List.map_append, List.nodup_append]
    refine ⟨h.there.once, List.nodup_singleton _, fun d hd e he => ?_⟩
    cases List.mem_singleton.mp he
    rintro rfl
    exact unsent hd
  · intro d i
    rw [List.mem_append, List.mem_singleton, Prod.mk.injEq]
    change t.calling d = _ ↔ _
    by_cases same : d = c
    · rw [same, own]
      have absent : (i, c) ∉ p.sent := fun hm => unsent (List.mem_map_of_mem hm)
      simp [absent, eq_comm]
    · rw [others d same, h.there.sent]
      simp [same]
  · obtain ⟨none, idle⟩ := h.reader.waits outside
    exact ⟨none, reading.trans idle⟩

theorem Between.sendEvent (h : Between B side p o out back) {event buffer : List UInt8}
    (fits : (Outgoing.event event).message.payload.length < 2^24)
    (hb : Channel.sendEvent event = some buffer) :
    Between B side { p.write buffer with notified := p.notified ++ [event] } o
      (out ++ [.event event]) back := by
  have bytes : buffer = Parcel.bytes B side (.event event) := buffer_parcel (p := .event event) hb
  refine ⟨⟨?_, ?_, ?_, ?_, h.there.once, h.there.sent⟩,
    ⟨h.here.bytes, h.here.fits, h.here.executed, h.here.events, h.here.once, h.here.sent⟩,
    h.calls.append_out fun _ => rfl, h.others.append_back fun _ => rfl,
    ⟨h.reader.sound, h.reader.uncut, h.reader.waits⟩, h.other⟩
  · change o.buffer_ ++ (p.env.wire ++ buffer) = _
    rw [← List.append_assoc, h.there.bytes, bytes, List.flatMap_append, List.flatMap_singleton]
  · intro x hx
    rcases List.mem_append.mp hx with before | new
    · exact h.there.fits x before
    · cases List.mem_singleton.mp new
      exact fits
  · rw [List.filterMap_append, ← List.append_assoc, h.there.executed]
    exact List.append_nil _
  · rw [List.filterMap_append, ← List.append_assoc, h.there.events]
    rfl

theorem Between.receive (h : Between B side p o out back) (n : Nat)
    (uncut : ¬ HeaderCut (rpcFrames.rest (p.buffer_ ++ o.env.wire.take n)).length) :
    Between B side { p with buffer_ := p.buffer_ ++ o.env.wire.take n, processing := true }
      { o with env := { o.env with wire := o.env.wire.drop n } } out back := by
  refine ⟨⟨h.there.bytes, h.there.fits, h.there.executed, h.there.events, h.there.once, h.there.sent⟩,
    ⟨?_, h.here.fits, h.here.executed, h.here.events, h.here.once, h.here.sent⟩, h.calls, h.others,
    ⟨h.reader.sound, uncut, nofun⟩, ⟨h.other.sound, h.other.uncut, h.other.waits⟩⟩
  change (p.buffer_ ++ o.env.wire.take n) ++ o.env.wire.drop n = _
  rw [List.append_assoc, List.take_append_drop, h.here.bytes]

/-! What the message processor does with each kind of parcel. -/

omit [DecidableEq κ] in
theorem invocation_ok {e : Endpoint κ} {payload : List UInt8} {env env' : Env κ} {results : List Result}
    (dispatched : dispatchTo e.methods (Invocation.parse payload) [] = .ok () results)
    (written : env.respond results = some env') : e.invocation payload env = .ok () env' := by
  rw [Endpoint.invocation, dispatched]
  dsimp only
  rw [written]

/-- The skeleton answers the invocation, and the response is written. -/
theorem act_invocation (B : Bridge κ) (side : Side) (id : UInt32) (c : κ) (env : Env κ) :
    act (B.ends side).handlers (Parcel.outgoing B side.other (.invocation id c)).message env =
      .ok () { env with wire := env.wire ++ Parcel.bytes B side (.response id c) } := by
  have parsed : Invocation.parse
      (Channel.invocationFor id ((B.ends side.other).methodName c)
        ((B.ends side.other).parameters c)).serialize =
      Channel.invocationFor id ((B.ends side.other).methodName c)
        ((B.ends side.other).parameters c) :=
    Invocation.parse_serialize (Nat.lt_trans (B.invocation_fits side.other id c) (by decide))
  have answers := B.answers side.other c
  rw [Side.other_other] at answers
  have dispatched : dispatchTo (B.ends side).methods
      (Channel.invocationFor id ((B.ends side.other).methodName c)
        ((B.ends side.other).parameters c)) [] =
      .ok () [⟨some id, some (B.answer side.other c), []⟩] := dispatchTo_response answers
  have written : env.respond [⟨some id, some (B.answer side.other c), []⟩] =
      some { env with wire := env.wire ++ Parcel.bytes B side (.response id c) } := by
    rw [Env.respond, List.mapM_cons, send_response_bytes]
    simp
  change (B.ends side).invocation (Channel.invocationFor id ((B.ends side.other).methodName c)
    ((B.ends side.other).parameters c)).serialize env = _
  rw [← parsed] at dispatched
  exact invocation_ok dispatched written

/-- The response is found its call. -/
theorem act_response (B : Bridge κ) (side : Side) {id : UInt32} {c : κ} {env : Env κ}
    (found : env.pendingCalls.pendingCalls_.lookup id = some c)
    {t : PendingCallCache.State κ (List UInt8)}
    (hs : PendingCallCache.step env.pendingCalls
      (.populateMessageForResult id (B.answer side c)) = some t) :
    act (B.ends side).handlers (Parcel.outgoing B side.other (.response id c)).message env =
      .ok () { env with pendingCalls := t } := by
  have parsed : Result.parse (Result.serialize ⟨some id, some (B.answer side c), []⟩) =
      ⟨some id, some (B.answer side c), []⟩ :=
    Result.parse_response (Nat.lt_trans (B.response_fits side id c) (by decide))
  rw [Parcel.outgoing, Side.other_other]
  change response (Result.serialize ⟨some id, some (B.answer side c), []⟩) env = _
  rw [response, parsed]
  dsimp only
  rw [found, Option.getD_some, hs]
  simp

theorem act_event (B : Bridge κ) (side : Side) {bytes : List UInt8}
    (fits : (Outgoing.event bytes).message.payload.length < 2^24) (env : Env κ) :
    act (B.ends side).handlers (Parcel.outgoing B side.other (.event bytes)).message env =
      .ok () { env with events := env.events ++ [bytes] } := by
  have parsed : Result.parse (Result.serialize ⟨none, none, [bytes]⟩) = ⟨none, none, [bytes]⟩ :=
    Result.parse_event (Nat.lt_trans fits (by decide))
  change response (Result.serialize ⟨none, none, [bytes]⟩) env = _
  rw [response, parsed]

/-! How much is left to do until all that is under way has arrived. -/

def weight (B : Bridge κ) (side : Side) : Parcel κ → Nat
  | .invocation id c => 4 + 2 * (Parcel.bytes B side.other (.response id c)).length
  | .response _ _ => 3
  | .event _ => 1

def Peer.busy (p : Peer κ) : Nat :=
  2 * p.env.wire.length + p.processing.toNat +
    match p.env.pendingCalls.reading with
    | .idle => 0
    | .populated _ => 2
    | .completing _ _ => 1

def work (B : Bridge κ) (side : Side) (p o : Peer κ) (out back : List (Parcel κ)) : Nat :=
  (out.map (weight B side)).sum + (back.map (weight B side.other)).sum + p.busy + o.busy

omit [DecidableEq κ] in
/-- The frame at the front of the buffer is the parcel that was sent first. -/
theorem Direction.front (h : Direction B side p o out) {f : Frame} {r : List UInt8}
    (front : nextFrame o.buffer_ = some (f, r)) :
    ∃ x rest, out = x :: rest ∧ x.fits B side ∧ f.toMessage = (x.outgoing B side).message ∧
      r ++ p.env.wire = rest.flatMap (Parcel.bytes B side) := by
  have read : nextFrame (o.buffer_ ++ p.env.wire) = some (f, r ++ p.env.wire) :=
    rpcFrames.next_append p.env.wire front
  rw [h.bytes] at read
  cases out with
  | nil => cases read
  | cons x rest =>
    have fits := h.fits x List.mem_cons_self
    rw [List.flatMap_cons, nextFrame_parcel fits] at read
    obtain ⟨same, left⟩ := Prod.mk.inj (Option.some.inj read)
    exact ⟨x, rest, rfl, fits, same ▸ rfl, left.symm⟩

/-- The peer behind a message that has been handled. -/
def Peer.handled (p : Peer κ) (rest : List UInt8) (m : Message) (env : Env κ) : Peer κ :=
  { p with toState := ⟨rest, p.acted ++ [m], env⟩ }

omit [DecidableEq κ] in
theorem executed_handled {x : Parcel κ} (fits : x.fits B side) (rest : List UInt8) (env : Env κ) :
    (o.handled rest (x.outgoing B side).message env).executed =
      o.executed ++ (x.invocation? B side).toList := by
  change ((o.acted ++ [(x.outgoing B side).message]).filter _).map _ = _
  rw [List.filter_append, List.map_append]
  congr 1
  cases x with
  | invocation id c =>
    have parsed := Invocation.parse_serialize
      (m := Channel.invocationFor id ((B.ends side).methodName c) ((B.ends side).parameters c))
      (Nat.lt_trans fits (by decide))
    exact congrArg (fun i => [i]) parsed
  | response id c => rfl
  | event bytes => rfl

omit [DecidableEq κ] in
theorem Direction.next {x : Parcel κ} {rest : List (Parcel κ)} (h : Direction B side p o (x :: rest))
    {r : List UInt8} (left : r ++ p.env.wire = rest.flatMap (Parcel.bytes B side)) {env : Env κ}
    (events : env.events = o.env.events ++ x.event?.toList) :
    Direction B side p (o.handled r (x.outgoing B side).message env) rest := by
  refine ⟨left, fun y hy => h.fits y (List.mem_cons_of_mem _ hy), ?_, ?_, h.once, h.sent⟩
  · rw [executed_handled (h.fits x List.mem_cons_self), List.append_assoc, ← h.executed]
    cases x with
    | invocation id c => rfl
    | response id c => rfl
    | event bytes => rfl
  · change env.events ++ _ = _
    rw [events, List.append_assoc, ← h.events]
    cases x with
    | invocation id c => rfl
    | response id c => rfl
    | event bytes => rfl

theorem pass_handled {e : Endpoint κ} {f : Frame} {r : List UInt8} {env : Env κ}
    (front : nextFrame p.buffer_ = some (f, r))
    (acts : act e.handlers f.toMessage p.env = .ok () env) :
    p.pass e = p.handled r f.toMessage env := by
  rw [Peer.pass, MessageProcessor.pass_frame front, acts]
  rfl

/-- Where no whole frame is left the loop ends, and never by reading behind the buffer. -/
theorem pass_leaves {e : Endpoint κ} (reader : Reader p) (none : nextFrame p.buffer_ = none) :
    p.pass e = { p with processing := false } := by
  have uncut := reader.uncut
  rw [rest_wait none] at uncut
  have leave : MessageProcessor.pass e.handlers p.toState = .leave := by
    by_cases empty : p.buffer_ = []
    · exact MessageProcessor.pass_nil empty
    · apply MessageProcessor.pass_wait _ none
      by_contra short
      exact uncut ⟨List.length_pos_iff.mpr empty, Nat.lt_of_not_le short⟩
  rw [Peer.pass, leave]

omit [DecidableEq κ] in
theorem Reader.handled (h : Reader p) {f : Frame} {r : List UInt8}
    (front : nextFrame p.buffer_ = some (f, r)) (inside : p.processing = true) (m : Message)
    (env : Env κ) : Reader (p.handled r m env) := by
  refine ⟨h.sound, ?_, fun outside => ?_⟩
  · change ¬ HeaderCut (rpcFrames.rest r).length
    rw [← rest_frame front]
    exact h.uncut
  · exact absurd (inside.symm.trans outside) (by decide)

/-- Once round the loop: one message has arrived, or all have that are here. -/
theorem Between.pass (h : Between B side p o out back) (inside : p.processing = true)
    (idle : p.env.pendingCalls.reading = .idle) :
    ∃ out' back', Between B side (p.pass (B.ends side)) o out' back' ∧
      work B side (p.pass (B.ends side)) o out' back' < work B side p o out back := by
  cases front : nextFrame p.buffer_ with
  | none =>
    rw [pass_leaves h.reader front]
    refine ⟨out, back, ⟨⟨h.there.bytes, h.there.fits, h.there.executed, h.there.events, h.there.once,
      h.there.sent⟩, ⟨h.here.bytes, h.here.fits, h.here.executed, h.here.events, h.here.once,
      h.here.sent⟩, h.calls, h.others, ⟨h.reader.sound, h.reader.uncut, fun _ => ⟨front, idle⟩⟩,
      h.other⟩, ?_⟩
    simp only [work, Peer.busy, inside, Bool.toNat_true, Bool.toNat_false]
    omega
  | some q =>
    obtain ⟨f, r⟩ := q
    obtain ⟨x, rest, rfl, fits, message, left⟩ := h.here.front front
    cases x with
    | invocation id c =>
      have acts := act_invocation B side id c p.env
      rw [← message] at acts
      rw [pass_handled front acts, message]
      refine ⟨out ++ [.response id c], rest, ⟨⟨?_, ?_, ?_, ?_, h.there.once, h.there.sent⟩,
        h.here.next left (List.append_nil _).symm, ?_, h.others.dispatched,
        h.reader.handled front inside _ _, h.other⟩, ?_⟩
      · change o.buffer_ ++ (p.env.wire ++ _) = _
        rw [← List.append_assoc, h.there.bytes, List.flatMap_append, List.flatMap_singleton]
      · intro y hy
        rcases List.mem_append.mp hy with before | new
        · exact h.there.fits y before
        · cases List.mem_singleton.mp new
          exact B.response_fits side.other id c
      · rw [List.filterMap_append, ← List.append_assoc, h.there.executed]
        exact List.append_nil _
      · rw [List.filterMap_append, ← List.append_assoc, h.there.events]
        exact List.append_nil _
      · exact (h.calls.skip fun _ => rfl).append_out fun _ => rfl
      · simp only [work, Peer.busy, Peer.handled, List.map_append, List.map_cons, List.map_nil,
          List.sum_append, List.sum_cons, List.sum_nil, weight, List.length_append, Side.other_other]
        omega
    | response id c =>
      obtain ⟨found, t, hs, calling, calls⟩ := h.calls.populate idle
      have acts := act_response B side found hs
      rw [← message] at acts
      rw [pass_handled front acts, message]
      refine ⟨out, rest, ⟨⟨h.there.bytes, h.there.fits, h.there.executed, h.there.events, h.there.once,
        fun d i => calling ▸ h.there.sent d i⟩, h.here.next left (List.append_nil _).symm, calls,
        h.others.passed fun _ => rfl, h.reader.handled front inside _ _, h.other⟩, ?_⟩
      have reading : t.reading = .populated id := by
        rw [PendingCallCache.step, idle, found] at hs
        exact Option.some.inj hs ▸ rfl
      simp only [work, Peer.busy, Peer.handled, idle, reading, List.map_cons, List.sum_cons, weight]
      omega
    | event bytes =>
      have acts := act_event B side fits p.env
      rw [← message] at acts
      rw [pass_handled front acts, message]
      refine ⟨out, rest, ⟨⟨h.there.bytes, h.there.fits, h.there.executed, h.there.events, h.there.once,
        h.there.sent⟩, h.here.next left rfl, h.calls.skip fun _ => rfl, h.others.passed fun _ => rfl,
        h.reader.handled front inside _ _, h.other⟩, ?_⟩
      simp only [work, Peer.busy, Peer.handled, List.map_cons, List.sum_cons, weight]
      omega

theorem Between.with_result (h : Between B side p o out back)
    {t : PendingCallCache.State κ (List UInt8)} (calling : t.calling = p.env.pendingCalls.calling)
    (calls : Calls (B.answer side) t out back)
    (reading : p.env.pendingCalls.reading ≠ .idle) :
    Between B side (p.withCalls t) o out back := by
  refine ⟨⟨h.there.bytes, h.there.fits, h.there.executed, h.there.events, h.there.once,
    fun c id => calling ▸ h.there.sent c id⟩, ⟨h.here.bytes, h.here.fits, h.here.executed, h.here.events,
    h.here.once, h.here.sent⟩, calls, h.others,
    ⟨h.reader.sound, h.reader.uncut, fun outside => ?_⟩, h.other⟩
  exact absurd (h.reader.waits outside).2 reading

theorem Between.completeResponse (h : Between B side p o out back)
    {t : PendingCallCache.State κ (List UInt8)}
    (hs : PendingCallCache.step p.env.pendingCalls .completeResponse = some t) :
    Between B side (p.withCalls t) o out back ∧
      work B side (p.withCalls t) o out back < work B side p o out back := by
  obtain ⟨calling, calls⟩ := h.calls.completeResponse hs
  cases PendingCallCache.step_cases hs with
  | take hr =>
    refine ⟨h.with_result calling calls (by rw [hr]; exact nofun), ?_⟩
    simp only [work, Peer.busy, Peer.withCalls, hr]
    omega

theorem Between.complete (h : Between B side p o out back)
    {t : PendingCallCache.State κ (List UInt8)}
    (hs : PendingCallCache.step p.env.pendingCalls .complete = some t) :
    Between B side (p.withCalls t) o out back ∧
      work B side (p.withCalls t) o out back < work B side p o out back := by
  obtain ⟨calling, calls⟩ := h.calls.complete hs
  cases PendingCallCache.step_cases hs with
  | complete hr =>
    refine ⟨h.with_result calling calls (by rw [hr]; exact nofun), ?_⟩
    simp only [work, Peer.busy, Peer.withCalls, hr]
    omega

omit [DecidableEq κ] in
theorem work_receive (B : Bridge κ) (side : Side) (p o : Peer κ) (out back : List (Parcel κ)) {n : Nat}
    (outside : p.processing = false) (some : 0 < n) (there : n ≤ o.env.wire.length) :
    work B side { p with buffer_ := p.buffer_ ++ o.env.wire.take n, processing := true }
      { o with env := { o.env with wire := o.env.wire.drop n } } out back <
        work B side p o out back := by
  simp only [work, Peer.busy, outside, List.length_drop, Bool.toNat_true, Bool.toNat_false]
  omega

omit [DecidableEq κ] in
theorem work_symm (B : Bridge κ) (side : Side) (p o : Peer κ) (out back : List (Parcel κ)) :
    work B side.other o p back out = work B side p o out back := by
  rw [work, work, Side.other_other]
  omega

end Anbox.Rpc.Session
