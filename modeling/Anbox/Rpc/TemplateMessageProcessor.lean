import Anbox.Rpc.Decoding
import Anbox.Rpc.Protobuf

namespace Anbox.Rpc

/-- What a server function throws: something derived from std::exception, or anything else. -/
inductive Thrown where
  | exception (what : String)
  | other
  deriving DecidableEq

/-- What a server function does with its closure. `result` is what it has put into the result
message when the closure runs, `final` what stands there when it throws. -/
inductive Behaviour (R : Type) where
  | runs (result : R)
  | raisesBefore (final : R) (x : Thrown)
  | raisesAfter (result final : R) (x : Thrown)

/-- A server function, and what the generated code of its two message types does. -/
structure Method where
  ParameterMessage : Type
  ResultMessage : Type
  parseFromString : List UInt8 → Option ParameterMessage
  setError : String → ResultMessage → ResultMessage
  serialize : ResultMessage → List UInt8
  function : ParameterMessage → Behaviour ResultMessage

/-- The result frames given to the sender, which is what handling an invocation works on. -/
abbrev Reply := EStateM Thrown (List Result) Unit

/-- `Self::send_response`, as far as the result that it is given: its buffer, and the size in its header,
are those of any message that is sent. -/
def reply (id : UInt32) (response : List UInt8) : Reply :=
  modify (· ++ [{ id := some id, response := some response, events := [] }])

/-- The handler around the call: it catches std::exception and answers with an error. -/
def rescue (m : Method) (id : UInt32) (final : m.ResultMessage) : Thrown → Reply
  | .exception what =>
    reply id (m.serialize (m.setError ("Error processing request: " ++ what) final))
  | .other => throw .other

def invoke (m : Method) (invocation : Invocation) : Reply :=
  match m.parseFromString invocation.parameters with
  -- thrown in front of the try block
  | none => throw (.exception "Failed to parse message parameters!")
  | some parameterMessage =>
    match m.function parameterMessage with
    | .runs result => reply invocation.id (m.serialize result)
    | .raisesBefore final x => rescue m invocation.id final x
    | .raisesAfter result final x => do
      reply invocation.id (m.serialize result)
      rescue m invocation.id final x

/-- A chain of comparisons with the method name; behind the last one nothing is done. -/
def dispatchTo : List (String × Method) → Invocation → Reply
  | [], _ => pure ()
  | (name, m) :: rest, invocation =>
    if invocation.methodName = name then invoke m invocation else dispatchTo rest invocation

structure PlatformApiSkeleton where
  setClipboardData : Method
  getClipboardData : Method

structure AndroidApiSkeleton where
  launchApplication : Method
  setFocusedTask : Method
  removeTask : Method
  resizeTask : Method

structure ManagementApiSkeleton where
  startContainer : Method
  stopContainer : Method

def PlatformApiSkeleton.methods (server : PlatformApiSkeleton) : List (String × Method) :=
  [("set_clipboard_data", server.setClipboardData),
    ("get_clipboard_data", server.getClipboardData)]

def AndroidApiSkeleton.methods (api : AndroidApiSkeleton) : List (String × Method) :=
  [("launch_application", api.launchApplication), ("set_focused_task", api.setFocusedTask),
    ("remove_task", api.removeTask), ("resize_task", api.resizeTask)]

def ManagementApiSkeleton.methods (server : ManagementApiSkeleton) : List (String × Method) :=
  [("start_container", server.startContainer), ("stop_container", server.stopContainer)]

/-- `PlatformMessageProcessor::dispatch`. -/
def PlatformApiSkeleton.dispatch (server : PlatformApiSkeleton) : Invocation → Reply :=
  dispatchTo server.methods

/-- `MessageProcessor::dispatch` of the Android service. -/
def AndroidApiSkeleton.dispatch (api : AndroidApiSkeleton) : Invocation → Reply :=
  dispatchTo api.methods

/-- `ManagementApiMessageProcessor::dispatch`. -/
def ManagementApiSkeleton.dispatch (server : ManagementApiSkeleton) : Invocation → Reply :=
  dispatchTo server.methods

/-- What process_data does with the payloads: `rawInvocation` is parsed, whatever comes out of
it, and dispatched. -/
def handlers (rawInvocation : List UInt8 → Invocation) (dispatch : Invocation → Reply)
    (response : List UInt8 → Reply) : Handlers Thrown (List Result) :=
  { invocation := fun payload => dispatch (rawInvocation payload), response := response }

/-- What control leaves behind, on whichever way it goes. -/
def left {ε σ : Type} : EStateM.Result ε σ Unit → σ
  | .ok _ env | .error _ env => env

/-- One result frame that carries `id` has been added. -/
def AnsweredOnce (id : UInt32) (before after : List Result) : Prop :=
  ∃ response, after = before ++ [{ id := some id, response := some response, events := [] }]

/-- The parameters parse, and the function answers by its closure or by a std::exception thrown
in front of it, not by both and not by neither. -/
def Answers (m : Method) (parameters : List UInt8) : Prop :=
  match m.parseFromString parameters with
  | none => False
  | some parameterMessage =>
    match m.function parameterMessage with
    | .runs _ => True
    | .raisesBefore _ x => x ≠ .other
    | .raisesAfter _ _ x => x = .other

theorem reply_sent (id : UInt32) (response : List UInt8) (frames : List Result) :
    reply id response frames =
      .ok () (frames ++ [{ id := some id, response := some response, events := [] }]) := rfl

theorem answered_once_reply (id : UInt32) (response : List UInt8) (frames : List Result) :
    AnsweredOnce id frames
      (frames ++ [{ id := some id, response := some response, events := [] }]) := ⟨response, rfl⟩

theorem AnsweredOnce.length {id : UInt32} {before after : List Result}
    (h : AnsweredOnce id before after) : after.length = before.length + 1 := by
  obtain ⟨response, rfl⟩ := h
  simp

theorem not_answered_once_self (id : UInt32) (frames : List Result) :
    ¬ AnsweredOnce id frames frames := by
  intro h
  have := h.length
  omega

theorem invoke_answers_iff (m : Method) (invocation : Invocation) (frames : List Result) :
    AnsweredOnce invocation.id frames (left (invoke m invocation frames)) ↔
      Answers m invocation.parameters := by
  unfold invoke Answers
  cases m.parseFromString invocation.parameters with
  | none => exact iff_of_false (not_answered_once_self _ _) id
  | some p =>
    simp only
    cases m.function p with
    | runs result => exact iff_of_true (answered_once_reply _ _ _) trivial
    | raisesBefore final x =>
      cases x with
      | exception what => exact iff_of_true (answered_once_reply _ _ _) (by simp)
      | other => exact iff_of_false (not_answered_once_self _ _) (by simp)
    | raisesAfter result final x =>
      cases x with
      | exception what =>
        apply iff_of_false _ (by simp)
        intro h
        have := h.length
        simp [rescue, bind, EStateM.bind, reply_sent, left] at this
      | other => exact iff_of_true (answered_once_reply _ _ _) rfl

theorem dispatchTo_answers_iff (methods : List (String × Method)) (invocation : Invocation)
    (frames : List Result) :
    AnsweredOnce invocation.id frames (left (dispatchTo methods invocation frames)) ↔
      ∃ m, methods.lookup invocation.methodName = some m ∧ Answers m invocation.parameters := by
  induction methods with
  | nil =>
    apply iff_of_false (not_answered_once_self _ _)
    rintro ⟨m, hm, -⟩
    simp at hm
  | cons entry rest ih =>
    obtain ⟨name, m⟩ := entry
    by_cases hn : invocation.methodName = name
    · rw [dispatchTo, if_pos hn, invoke_answers_iff, hn, List.lookup_cons_self]
      simp
    · have hb : (invocation.methodName == name) = false := by simpa using hn
      simp only [dispatchTo, if_neg hn, ih, List.lookup_cons, hb]

/-- An invocation frame that is alone in the buffer. -/
def invocationFrame (payload : { p : List UInt8 // p.length < 2^24 }) : Frame :=
  ⟨⟨MessageType.invocation.code, payload.1⟩, payload.2⟩

theorem processData_invocation {ε σ : Type} (H : Handlers ε σ) (env : σ)
    (payload : { p : List UInt8 // p.length < 2^24 }) :
    (MessageProcessor.processData H (invocationFrame payload).bytes
        (MessageProcessor.init env)).state.env = left (H.invocation payload.1 env) := by
  have hn : nextFrame ([] ++ (invocationFrame payload).bytes) =
      some (invocationFrame payload, []) := by
    simpa using nextFrame_bytes (invocationFrame payload) []
  have hp := MessageProcessor.pass_frame (H := H)
    (s := ⟨[] ++ (invocationFrame payload).bytes, [], env⟩) hn
  have ha : act H (invocationFrame payload).toMessage env = H.invocation payload.1 env := rfl
  simp only [MessageProcessor.processData, MessageProcessor.init]
  rw [MessageProcessor.processBuffer_pass, hp, ha]
  cases H.invocation payload.1 env with
  | ok u env' =>
    simp only
    rw [MessageProcessor.processBuffer_pass, MessageProcessor.pass_nil rfl]
    rfl
  | error e env' => rfl

/-- An invocation is answered exactly once precisely when its method is one of those compared
with, its parameters parse, and the function answers in exactly one way. -/
theorem invocation_answered_once_iff (rawInvocation : List UInt8 → Invocation)
    (response : List UInt8 → Reply) (server : PlatformApiSkeleton) (api : AndroidApiSkeleton)
    (payload : { p : List UInt8 // p.length < 2^24 }) (frames : List Result) :
    (AnsweredOnce (rawInvocation payload.1).id frames
        (MessageProcessor.processData (handlers rawInvocation server.dispatch response)
          (invocationFrame payload).bytes (MessageProcessor.init frames)).state.env ↔
      ∃ m, server.methods.lookup (rawInvocation payload.1).methodName = some m ∧
        Answers m (rawInvocation payload.1).parameters) ∧
    (AnsweredOnce (rawInvocation payload.1).id frames
        (MessageProcessor.processData (handlers rawInvocation api.dispatch response)
          (invocationFrame payload).bytes (MessageProcessor.init frames)).state.env ↔
      ∃ m, api.methods.lookup (rawInvocation payload.1).methodName = some m ∧
        Answers m (rawInvocation payload.1).parameters) := by
  rw [processData_invocation, processData_invocation]
  exact ⟨dispatchTo_answers_iff server.methods (rawInvocation payload.1) frames,
    dispatchTo_answers_iff api.methods (rawInvocation payload.1) frames⟩

/-- A method whose parameters always parse and whose function runs its closure. -/
def echo : Method :=
  { ParameterMessage := List UInt8, ResultMessage := List UInt8, parseFromString := some,
    setError := fun _ result => result, serialize := id, function := .runs }

/-- The Android service does not answer a method it does not know. -/
theorem unknown_method_unanswered :
    ¬ AnsweredOnce 7 [] (MessageProcessor.processData
      (handlers (fun _ => ⟨7, "start", [], 1⟩) (AndroidApiSkeleton.mk echo echo echo echo).dispatch
        fun _ => pure ())
      (invocationFrame ⟨[0x08, 7, 0x12, 5, 0x73, 0x74, 0x61, 0x72, 0x74, 0x1a, 0, 0x20, 1],
        by decide⟩).bytes
      (MessageProcessor.init [])).state.env := by
  rw [processData_invocation]
  exact not_answered_once_self 7 []

end Anbox.Rpc
