import Anbox.Rpc.Decoding
import Anbox.Rpc.Protobuf

namespace Anbox.Rpc

open MessageProcessor

/-- The header and the serialized message in one buffer. `ByteSize()` is an `int`: of a message of
2 GiB or more the size is no size of a vector, and making the buffer throws. -/
def sendBuffer (type : MessageType) (message : List UInt8) : Option (List UInt8) :=
  if message.length < 2^31 then some (headerBytes message.length type.code ++ message) else none

namespace Channel

def sendMessage (type : MessageType) (message : List UInt8) : Option (List UInt8) :=
  sendBuffer type message

def invocationFor (nextId : UInt32) (methodName : String) (request : List UInt8) :
    Invocation :=
  { id := nextId, methodName := methodName, parameters := request, protocolVersion := 1 }

def sendEvent (event : List UInt8) : Option (List UInt8) :=
  sendMessage .response (Result.serialize { id := none, response := none, events := [event] })

end Channel

/-- `MessageProcessor::send_response`, which writes the header by itself. -/
def sendResponse (id : UInt32) (response : List UInt8) : Option (List UInt8) :=
  sendBuffer .response
    (Result.serialize { id := some id, response := some response, events := [] })

/-- The ways in which either side sends a message. -/
inductive Outgoing where
  | invocation (nextId : UInt32) (methodName : String) (request : List UInt8)
  | event (bytes : List UInt8)
  | response (id : UInt32) (bytes : List UInt8)

def Outgoing.buffer : Outgoing → Option (List UInt8)
  | .invocation nextId methodName request =>
    Channel.sendMessage .invocation
      (Channel.invocationFor nextId methodName request).serialize
  | .event bytes => Channel.sendEvent bytes
  | .response id bytes => sendResponse id bytes

/-- What the other side is meant to take from the stream. -/
def Outgoing.message : Outgoing → Message
  | .invocation nextId methodName request =>
    ⟨MessageType.invocation.code, (Channel.invocationFor nextId methodName request).serialize⟩
  | .event bytes =>
    ⟨MessageType.response.code,
      Result.serialize { id := none, response := none, events := [bytes] }⟩
  | .response id bytes =>
    ⟨MessageType.response.code,
      Result.serialize { id := some id, response := some bytes, events := [] }⟩

/-- Both senders write the same header. -/
theorem Outgoing.buffer_eq {o : Outgoing} {b : List UInt8} (h : o.buffer = some b) :
    b = headerBytes o.message.payload.length o.message.messageType ++ o.message.payload := by
  have sent {type : MessageType} {m : List UInt8} (hb : sendBuffer type m = some b) :
      b = headerBytes m.length type.code ++ m := by
    rw [sendBuffer] at hb
    split at hb
    · exact (Option.some.inj hb).symm
    · cases hb
  cases o with
  | invocation nextId methodName request => exact sent h
  | event bytes => exact sent h
  | response id bytes => exact sent h

theorem messages_fit {b : List UInt8} {m : Message} (h : m ∈ messages b) :
    m.payload.length < 2^24 := by
  obtain ⟨f, -, rfl⟩ := List.mem_map.mp h
  exact f.size_lt

/-- Messages that fit the header are read back from the concatenation of their buffers. -/
theorem messages_sent {out : List Outgoing} {bufs : List (List UInt8)}
    (hsend : out.mapM Outgoing.buffer = some bufs)
    (hfit : ∀ o ∈ out, o.message.payload.length < 2^24) :
    messages bufs.flatten = out.map Outgoing.message ∧ rpcFrames.rest bufs.flatten = [] := by
  induction out generalizing bufs with
  | nil =>
    obtain rfl : [] = bufs := by simpa using hsend
    exact ⟨messages_wait rfl, rest_wait rfl⟩
  | cons o out ih =>
    simp only [List.mapM_cons, Option.bind_eq_bind, Option.bind_eq_some_iff, Option.pure_def,
      Option.some.injEq] at hsend
    obtain ⟨b, hb, bs, hbs, rfl⟩ := hsend
    obtain ⟨hm, hr⟩ := ih hbs fun o' ho => hfit o' (List.mem_cons_of_mem _ ho)
    let f : Frame := ⟨o.message, hfit o List.mem_cons_self⟩
    have hn : nextFrame (b ++ bs.flatten) = some (f, bs.flatten) := by
      rw [Outgoing.buffer_eq hb]
      exact nextFrame_bytes f bs.flatten
    rw [List.flatten_cons, messages_frame hn, rest_frame hn, hm, hr]
    exact ⟨rfl, rfl⟩

/-- The messages acted upon are those at the front of the stream, all of them unless one throws. -/
theorem processData_acted {ε σ : Type} (H : Handlers ε σ) (env : σ) (data : List UInt8) :
    ∃ later, messages data = (processData H data (init env)).state.acted ++ later ∧
      ((∃ env', actAll H (messages data) env = .ok () env' ∧ later = []) ∨
        ∃ done m env₁ e env', messages data = done ++ m :: later ∧
          actAll H done env = .ok () env₁ ∧ act H m env₁ = .error e env') := by
  have d := processBuffer_decodes H { init env with buffer_ := data }
  change ∃ later, messages data =
    (processBuffer H { init env with buffer_ := data }).state.acted ++ later ∧ _
  generalize processBuffer H { init env with buffer_ := data } = o at d
  cases d with
  | @returned env' all header => exact ⟨[], by simp [Outcome.state, init], .inl ⟨env', all, rfl⟩⟩
  | @outOfRange env' all header =>
    exact ⟨[], by simp [Outcome.state, init], .inl ⟨env', all, rfl⟩⟩
  | @raised done later m e env₁ env' split all last =>
    refine ⟨later, ?_, .inr ⟨done, m, env₁, e, env', split, all, last⟩⟩
    simpa [Outcome.state, init] using split

/-- The stream of what was sent is decoded into what was sent precisely when every message fits
the 24-bit length and none but the last one is thrown at by its handler. -/
theorem sent_messages_decode_iff {ε σ : Type} (H : Handlers ε σ) (env : σ) (out : List Outgoing)
    (bufs : List (List UInt8)) (hsend : out.mapM Outgoing.buffer = some bufs) :
    (processData H bufs.flatten (init env)).state.acted = out.map Outgoing.message ↔
      (∀ o ∈ out, o.message.payload.length < 2^24) ∧
        ∃ env', actAll H (out.map Outgoing.message).dropLast env = .ok () env' := by
  obtain ⟨later, hl, hcase⟩ := processData_acted H env bufs.flatten
  constructor
  · intro h
    rw [h] at hl
    refine ⟨?_, ?_⟩
    · intro o ho
      apply messages_fit (b := bufs.flatten)
      rw [hl]
      exact List.mem_append_left _ (List.mem_map_of_mem ho)
    · rcases hcase with ⟨env', all, rfl⟩ | ⟨done, m, env₁, e, env', split, all, last⟩
      · rw [hl, List.append_nil] at all
        obtain ⟨ms, hms⟩ := List.dropLast_prefix (out.map Outgoing.message)
        rw [← hms] at all
        obtain ⟨env₁, h₁, -⟩ := actAll_append_ok all
        exact ⟨env₁, h₁⟩
      · rw [hl, ← List.singleton_append, ← List.append_assoc] at split
        rw [List.append_cancel_right split, List.dropLast_concat]
        exact ⟨env₁, all⟩
  · rintro ⟨hfit, env₀, hall⟩
    obtain ⟨hm, -⟩ := messages_sent hsend hfit
    rcases hcase with ⟨env', all, rfl⟩ | ⟨done, m, env₁, e, env', split, all, last⟩
    · rw [← hm, hl, List.append_nil]
    · have hnil : later = [] := by
        by_contra hne
        rw [← hm, split, List.dropLast_append_cons, List.dropLast_cons_of_ne_nil hne] at hall
        obtain ⟨env₂, h₁, h₂⟩ := actAll_append_ok hall
        rw [all] at h₁
        cases h₁
        rw [actAll_cons, last] at h₂
        cases h₂
      rw [← hm, hl, hnil, List.append_nil]

theorem sent_event_and_response_decode :
    (processData quiet [0, 0, 4, 1, 0x1a, 2, 1, 2, 0, 0, 5, 1, 0x08, 5, 0x12, 1, 7]
      (init ())).state.acted =
        [⟨1, [0x1a, 2, 1, 2]⟩, ⟨1, [0x08, 5, 0x12, 1, 7]⟩] :=
  (sent_messages_decode_iff quiet () [.event [1, 2], .response 5 [7]]
    [[0, 0, 4, 1, 0x1a, 2, 1, 2], [0, 0, 5, 1, 0x08, 5, 0x12, 1, 7]] (by decide)).mpr
    ⟨by decide, (), rfl⟩

/-- A message the header cannot carry is accepted by the sender and lost to the receiver. -/
theorem long_message_misread {ε σ : Type} (H : Handlers ε σ) (env : σ) {o : Outgoing}
    (hl : 2^24 ≤ o.message.payload.length) (buf : List UInt8) :
    (processData H buf (init env)).state.acted ≠ [o.message] := by
  intro h
  obtain ⟨later, hm, -⟩ := processData_acted H env buf
  have fits := messages_fit (m := o.message)
    (hm ▸ List.mem_append_left _ (h ▸ List.mem_singleton_self _))
  omega

theorem event_accepted (bytes : List UInt8) (h : bytes.length < 2^30) :
    ∃ buf, (Outgoing.event bytes).buffer = some buf := by
  refine ⟨_, if_pos ?_⟩
  have hv : (varint bytes.length).length ≤ 10 := varintBytes_length_le 10 bytes.length
  simp only [Result.serialize, lengthDelimited, Option.elim, List.nil_append, List.flatMap_cons,
    List.flatMap_nil, List.append_nil, List.length_append, List.length_cons]
  omega

/-- An event of 16 MiB: its header announces less than its payload. -/
theorem sent_long_event_misread :
    ∃ buf, (Outgoing.event (List.replicate (2^24) 0)).buffer = some buf ∧
      (processData quiet buf (init ())).state.acted ≠
        [(Outgoing.event (List.replicate (2^24) 0)).message] := by
  obtain ⟨buf, hb⟩ := event_accepted (List.replicate (2^24) 0)
    (by rw [List.length_replicate]; omega)
  refine ⟨buf, hb, long_message_misread quiet () ?_ buf⟩
  have long := lengthDelimited_length 0x1a (List.replicate (2^24) 0)
  rw [List.length_replicate] at long
  simpa only [Outgoing.message, Result.serialize, Option.elim, List.nil_append, List.flatMap_cons,
    List.flatMap_nil, List.append_nil] using long.le

end Anbox.Rpc
