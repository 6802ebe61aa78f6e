import Anbox.Rpc.CallCompletion
import Anbox.Rpc.Channel
import Anbox.Rpc.TemplateMessageProcessor
import Anbox.Rpc.WireFormat

namespace Anbox.Rpc.Session

open Anbox.Framework
open MessageProcessor (Pass)

/-- The two ends of the connection: the session manager and the service inside the container. -/
inductive Side where
  | host
  | container
  deriving DecidableEq

def Side.other : Side → Side
  | host => container
  | container => host

@[simp] theorem Side.other_other (side : Side) : side.other.other = side := by
  cases side <;> rfl

theorem Side.other_ne (side : Side) : side.other ≠ side := by
  cases side <;> decide

theorem Side.eq_or_other (side d : Side) : d = side ∨ d = side.other := by
  cases side <;> cases d <;> decide

/-- What the stubs of one end call with, and the skeleton that serves the other end. -/
structure Endpoint (κ : Type) where
  methodName : κ → String
  parameters : κ → List UInt8
  methods : List (String × Method)

/-- What a message processor works on apart from its buffer: the pending calls, what has been written to
the socket and not been read at the other end, and the event sequences it has been given. -/
structure Env (κ : Type) where
  pendingCalls : PendingCallCache.State κ (List UInt8)
  wire : List UInt8
  events : List (List UInt8)

/-- One end of the connection with its message processor. `processing` says that `processData` is
running, `failed` that an exception has left it or that it has read behind its buffer. `sent` and
`notified` are the calls, under their ids, and the events it has sent; nothing reads them. -/
structure Peer (κ : Type) extends MessageProcessor.State (Env κ) where
  processing : Bool
  failed : Bool
  sent : List (UInt32 × κ)
  notified : List (List UInt8)

abbrev State (κ : Type) := Side → Peer κ

def init {κ : Type} : State κ := fun _ =>
  { buffer_ := [], acted := [], env := ⟨PendingCallCache.init, [], []⟩, processing := false,
    failed := false, sent := [], notified := [] }

/-- A step of a calling thread, or of the thread that reads the socket of its end. That one enters
`processData` with `n` bytes, goes once round its loop, or goes on in `completeResponse`. -/
inductive Action (κ : Type) where
  | call (side : Side) (a : PendingCallCache.Action κ (List UInt8))
  | sendEvent (side : Side) (event : List UInt8)
  | receive (side : Side) (n : Nat)
  | pass (side : Side)
  | completeResponse (side : Side)
  | complete (side : Side)

variable {κ : Type} [DecidableEq κ]

/-- What `dispatch` has given to `sendResponse` is written. -/
def Env.respond (env : Env κ) (results : List Result) : Option (Env κ) :=
  (results.mapM fun result => sendBuffer .response result.serialize).map fun buffers =>
    { env with wire := env.wire ++ buffers.flatten }

def Endpoint.invocation (e : Endpoint κ) (payload : List UInt8) : EStateM Thrown (Env κ) Unit :=
  fun env =>
    match dispatchTo e.methods (Invocation.parse payload) [] with
    | .ok _ results =>
      match env.respond results with
      | some env => .ok () env
      | none => .error (.exception "std::length_error") env
    | .error thrown results => .error thrown ((env.respond results).getD env)

/-- The result goes to the call that waits for it, and the events to the skeleton. `completeResponse`
takes the lock anew and is a step of its own; the frame that is erased behind it is read by nobody
else. -/
def response (payload : List UInt8) : EStateM Thrown (Env κ) Unit :=
  fun env =>
    let result := Result.parse payload
    match result.id with
    | none => .ok () { env with events := env.events ++ result.events }
    | some id =>
      match env.pendingCalls.pendingCalls_.lookup id,
        PendingCallCache.step env.pendingCalls
          (.populateMessageForResult id (result.response.getD [])) with
      | some _, some pendingCalls =>
        .ok () { env with pendingCalls := pendingCalls, events := env.events ++ result.events }
      | _, _ => .error (.exception "map::at") env

def Endpoint.handlers (e : Endpoint κ) : Handlers Thrown (Env κ) := ⟨e.invocation, response⟩

/-- The invocation of a call that has got its id. -/
def Endpoint.outgoing (e : Endpoint κ) (id : UInt32) (c : κ) : Outgoing :=
  .invocation id (e.methodName c) (e.parameters c)

def Peer.write (p : Peer κ) (buffer : List UInt8) : Peer κ :=
  { p with env := { p.env with wire := p.env.wire ++ buffer } }

def Peer.withCalls (p : Peer κ) (pendingCalls : PendingCallCache.State κ (List UInt8)) : Peer κ :=
  { p with env := { p.env with pendingCalls := pendingCalls } }

/-- What a calling thread does, as long as the socket takes what is sent. -/
def Peer.call (e : Endpoint κ) (p : Peer κ) (a : PendingCallCache.Action κ (List UInt8)) :
    Option (Peer κ) :=
  (PendingCallCache.step p.env.pendingCalls a).bind fun pendingCalls =>
    match a with
    | .readId _ | .writeId _ | .saveCompletionDetails _ => some (p.withCalls pendingCalls)
    | .send c =>
      match p.env.pendingCalls.calling c with
      | .saved id _ => (e.outgoing id c).buffer.map fun buffer =>
        { (p.withCalls pendingCalls).write buffer with sent := p.sent ++ [(id, c)] }
      | _ => none
    | _ => none

/-- Once round the loop of `processData`. -/
def Peer.pass (e : Endpoint κ) (p : Peer κ) : Peer κ :=
  match MessageProcessor.pass e.handlers p.toState with
  | .leave => { p with processing := false }
  | .again t => { p with toState := t }
  | .raised _ t => { p with toState := t, processing := false, failed := true }
  | .outOfRange => { p with failed := true }

variable (ends : Side → Endpoint κ)

def step (s : State κ) : Action κ → Option (State κ)
  | .call side a => ((s side).call (ends side) a).map fun p => Function.update s side p
  | .sendEvent side event =>
    (Channel.sendEvent event).map fun buffer =>
      Function.update s side
        { (s side).write buffer with notified := (s side).notified ++ [event] }
  | .receive side n =>
    let wire := (s side.other).env.wire
    if (s side).processing = false ∧ (s side).failed = false ∧ 0 < n ∧ n ≤ wire.length then
      some (Function.update
        (Function.update s side.other
          { s side.other with env := { (s side.other).env with wire := wire.drop n } })
        side { s side with buffer_ := (s side).buffer_ ++ wire.take n, processing := true })
    else none
  | .pass side =>
    if (s side).processing = true ∧ (s side).failed = false ∧
        (s side).env.pendingCalls.reading = .idle then
      some (Function.update s side ((s side).pass (ends side)))
    else none
  | .completeResponse side =>
    (PendingCallCache.step (s side).env.pendingCalls .completeResponse).map fun pendingCalls =>
      Function.update s side ((s side).withCalls pendingCalls)
  | .complete side =>
    (PendingCallCache.step (s side).env.pendingCalls .complete).map fun pendingCalls =>
      Function.update s side ((s side).withCalls pendingCalls)

/-- A call is saved under an id that is free, an event fits the length in its header, and no read ends
inside a header. -/
def Orderly (s : State κ) : Action κ → Prop
  | .call side a => PendingCallCache.FreshId (s side).env.pendingCalls a
  | .sendEvent _ event => (Outgoing.event event).message.payload.length < 2^24
  | .receive side n =>
    ¬ MessageProcessor.HeaderCut
      (rpcFrames.rest ((s side).buffer_ ++ (s side.other).env.wire.take n)).length
  | _ => True

instance (s : State κ) : (a : Action κ) → Decidable (Orderly s a)
  | .call _ _ => inferInstanceAs (Decidable (PendingCallCache.FreshId _ _))
  | .sendEvent _ _ => inferInstanceAs (Decidable (_ < _))
  | .receive _ _ => inferInstanceAs (Decidable ¬ _)
  | .pass _ | .completeResponse _ | .complete _ => .isTrue trivial

/-- The invocations that a message processor has dispatched, in their order. -/
def Peer.executed (p : Peer κ) : List Invocation :=
  (p.acted.filter fun m => m.messageType = MessageType.invocation.code).map
    fun m => Invocation.parse m.payload

end Anbox.Rpc.Session
