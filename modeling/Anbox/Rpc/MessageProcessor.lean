import Anbox.Rpc.Frame

namespace Anbox.Rpc

open Anbox.Framework

variable {ε σ : Type}

/-- What `processData` calls for a message, by its type; either may throw. -/
structure Handlers (ε σ : Type) where
  invocation : List UInt8 → EStateM ε σ Unit
  response : List UInt8 → EStateM ε σ Unit

/-- The branches on `messageType`; a message of another type is dropped. -/
def act (H : Handlers ε σ) (m : Message) : EStateM ε σ Unit :=
  if m.messageType = MessageType.invocation.code then H.invocation m.payload
  else if m.messageType = MessageType.response.code then H.response m.payload
  else pure ()

/-- Messages acted upon one after the other, up to the first exception. -/
def actAll (H : Handlers ε σ) (ms : List Message) : EStateM ε σ Unit := ms.forM (act H)

@[simp] theorem actAll_nil (H : Handlers ε σ) (env : σ) : actAll H [] env = .ok () env := rfl

theorem actAll_cons (H : Handlers ε σ) (m : Message) (ms : List Message) (env : σ) :
    actAll H (m :: ms) env = match act H m env with
      | .ok _ env' => actAll H ms env'
      | .error e env' => .error e env' := by
  cases h : act H m env <;> simp [actAll, bind, EStateM.bind, h]

namespace MessageProcessor

/-- `acted` records the messages the loop has gone through the branches with; the code does not
read it. `env` is what the handlers work on. -/
structure State (σ : Type) where
  buffer_ : List UInt8
  acted : List Message
  env : σ

def init (env : σ) : State σ := ⟨[], [], env⟩

/-- Subtraction on `size_t`. -/
def sizeSub (a b : Nat) : Nat := if b ≤ a then a - b else 2^64 - (b - a)

/-- How one pass through the body of the loop ends. -/
inductive Pass (ε σ : Type) where
  | leave
  | again (t : State σ)
  | raised (e : ε) (t : State σ)
  | outOfRange

def pass (H : Handlers ε σ) (s : State σ) : Pass ε σ :=
  if s.buffer_.length > 0 then
    match s.buffer_[0]?, s.buffer_[1]?, s.buffer_[2]?, s.buffer_[3]? with
    | some high, some medium, some low, some messageType =>
      if sizeSub s.buffer_.length headerSize < messageSize high medium low then .leave
      else
        let m : Message :=
          ⟨messageType, (s.buffer_.drop headerSize).take (messageSize high medium low)⟩
        match act H m s.env with
        | .ok _ env =>
          .again ⟨s.buffer_.drop (headerSize + messageSize high medium low), s.acted ++ [m], env⟩
        -- the exception passes the `erase`
        | .error e env => .raised e ⟨s.buffer_, s.acted ++ [m], env⟩
    -- operator[] of std::vector does not check: an index past the end has no defined value
    | _, _, _, _ => .outOfRange
  else .leave

/-- How a call ends. Behind `outOfRange` the language defines nothing. -/
inductive Outcome (ε σ : Type) where
  | returned (t : State σ)
  | raised (e : ε) (t : State σ)
  | outOfRange (t : State σ)

def Outcome.state : Outcome ε σ → State σ
  | returned t | raised _ t | outOfRange t => t

theorem pass_nil {H : Handlers ε σ} {s : State σ} (h : s.buffer_ = []) : pass H s = .leave := by
  simp [pass, h]

/-- With fewer than four bytes the header is read past the end of the buffer. -/
theorem pass_short {H : Handlers ε σ} {s : State σ} (h : s.buffer_ ≠ [])
    (hl : s.buffer_.length < headerSize) : pass H s = .outOfRange := by
  obtain ⟨b, acted, env⟩ := s
  match b with
  | [] => exact absurd rfl h
  | [_] | [_, _] | [_, _, _] => simp [pass]
  | _ :: _ :: _ :: _ :: _ =>
    simp only [List.length_cons, headerSize] at hl
    omega

theorem pass_wait {H : Handlers ε σ} {s : State σ} (hl : headerSize ≤ s.buffer_.length)
    (h : nextFrame s.buffer_ = none) : pass H s = .leave := by
  obtain ⟨b, acted, env⟩ := s
  obtain ⟨high, medium, low, messageType, body, rfl⟩ := header_split hl
  have hb : body.length < messageSize high medium low := by
    simp only [nextFrame] at h
    split_ifs at h with hc
    omega
  simp [pass, sizeSub, headerSize, hb]

theorem pass_frame {H : Handlers ε σ} {s : State σ} {f : Frame} {r : List UInt8}
    (h : nextFrame s.buffer_ = some (f, r)) :
    pass H s = match act H f.toMessage s.env with
      | .ok _ env => .again ⟨r, s.acted ++ [f.toMessage], env⟩
      | .error e env => .raised e ⟨s.buffer_, s.acted ++ [f.toMessage], env⟩ := by
  obtain ⟨b, acted, env⟩ := s
  have hl : headerSize ≤ b.length := by
    by_contra hc
    simp [nextFrame_short (Nat.lt_of_not_le hc)] at h
  obtain ⟨high, medium, low, messageType, body, rfl⟩ := header_split hl
  obtain ⟨hb, hf, rfl⟩ := (nextFrame_cons _ _ _ _ _).mp h
  have hd : (high :: medium :: low :: messageType :: body).drop
      (headerSize + messageSize high medium low) = body.drop (messageSize high medium low) := by
    simp [headerSize, Nat.add_comm 4]
  simp only [headerSize] at hd
  simp [pass, hf, sizeSub, headerSize, Nat.not_lt.mpr hb, hd]

/-- The buffer gets shorter with every pass that goes on, by four bytes at least. -/
theorem pass_again_length {H : Handlers ε σ} {s t : State σ} (h : pass H s = .again t) :
    t.buffer_.length < s.buffer_.length := by
  cases hf : nextFrame s.buffer_ with
  | some p =>
    rw [pass_frame (f := p.1) (r := p.2) hf] at h
    split at h
    · obtain rfl := Pass.again.inj h
      exact rpcFrames.next_length (r := p.2) hf
    · cases h
  | none =>
    by_cases hn : s.buffer_ = []
    · simp [pass_nil hn] at h
    · by_cases hl : s.buffer_.length < headerSize
      · simp [pass_short hn hl] at h
      · simp [pass_wait (Nat.le_of_not_lt hl) hf] at h

/-- The loop of `processData`. -/
def processBuffer (H : Handlers ε σ) (s : State σ) : Outcome ε σ :=
  match _h : pass H s with
  | .leave => .returned s
  | .again t => processBuffer H t
  | .raised e t => .raised e t
  | .outOfRange => .outOfRange s
termination_by s.buffer_.length
decreasing_by exact pass_again_length _h

def processData (H : Handlers ε σ) (data : List UInt8) (s : State σ) : Outcome ε σ :=
  processBuffer H { s with buffer_ := s.buffer_ ++ data }

theorem processBuffer_pass (H : Handlers ε σ) (s : State σ) :
    processBuffer H s = match pass H s with
      | .leave => .returned s
      | .again t => processBuffer H t
      | .raised e t => .raised e t
      | .outOfRange => .outOfRange s := by
  rw [processBuffer]
  split <;> rename_i h <;> rw [h]

/-- Calls one after the other, whatever the earlier ones ended in; `none` once one of them has
read out of range. -/
def feed (H : Handlers ε σ) : State σ → List (List UInt8) → Option (State σ)
  | s, [] => some s
  | s, c :: cs =>
    match processData H c s with
    | .returned t | .raised _ t => feed H t cs
    | .outOfRange _ => none

/-! What a call does, in terms of the frames of its buffer. -/

def messages (b : List UInt8) : List Message := (rpcFrames.frames b).map Frame.toMessage

/-- Some bytes of a header have arrived, and not all. -/
def HeaderCut (n : Nat) : Prop := 0 < n ∧ n < headerSize

instance (n : Nat) : Decidable (HeaderCut n) := inferInstanceAs (Decidable (_ ∧ _))

inductive Decodes (H : Handlers ε σ) (s : State σ) : Outcome ε σ → Prop where
  | returned {env : σ} (all : actAll H (messages s.buffer_) s.env = .ok () env)
      (header : ¬ HeaderCut (rpcFrames.rest s.buffer_).length) :
      Decodes H s (.returned ⟨rpcFrames.rest s.buffer_, s.acted ++ messages s.buffer_, env⟩)
  | outOfRange {env : σ} (all : actAll H (messages s.buffer_) s.env = .ok () env)
      (header : HeaderCut (rpcFrames.rest s.buffer_).length) :
      Decodes H s (.outOfRange ⟨rpcFrames.rest s.buffer_, s.acted ++ messages s.buffer_, env⟩)
  | raised (done later : List Message) {m : Message} {e : ε} {env env' : σ}
      (split : messages s.buffer_ = done ++ m :: later)
      (all : actAll H done s.env = .ok () env) (last : act H m env = .error e env') :
      Decodes H s (.raised e
        ⟨rpcFrames.behind done.length s.buffer_, s.acted ++ (done ++ [m]), env'⟩)

theorem messages_frame {b r : List UInt8} {f : Frame} (h : nextFrame b = some (f, r)) :
    messages b = f.toMessage :: messages r := by
  rw [messages, FrameReader.frames_some (R := rpcFrames.toFrameReader) h]
  rfl

theorem messages_wait {b : List UInt8} (h : nextFrame b = none) : messages b = [] := by
  rw [messages, FrameReader.frames_none (R := rpcFrames.toFrameReader) h]
  rfl

theorem processBuffer_wait {H : Handlers ε σ} {s : State σ} (h : nextFrame s.buffer_ = none) :
    Decodes H s (processBuffer H s) := by
  have hm := messages_wait h
  have hr := rest_wait h
  have all : actAll H (messages s.buffer_) s.env = .ok () s.env := by rw [hm, actAll_nil]
  by_cases hc : HeaderCut s.buffer_.length
  · have hp := pass_short (H := H) (List.length_pos_iff.mp hc.1) hc.2
    have d := Decodes.outOfRange all (hr.symm ▸ hc)
    rw [hr, hm, List.append_nil] at d
    rwa [processBuffer_pass, hp]
  · have hp : pass H s = .leave := by
      by_cases hn : s.buffer_ = []
      · exact pass_nil hn
      · have pos := List.length_pos_iff.mpr hn
        exact pass_wait (Nat.le_of_not_lt fun hl => hc ⟨pos, hl⟩) h
    have d := Decodes.returned all (hr.symm ▸ hc)
    rw [hr, hm, List.append_nil] at d
    rwa [processBuffer_pass, hp]

theorem processBuffer_decodes (H : Handlers ε σ) (s : State σ) :
    Decodes H s (processBuffer H s) := by
  obtain ⟨b, acted, env⟩ := s
  induction b using rpcFrames.induction_frames generalizing acted env with
  | none b h => exact processBuffer_wait h
  | some b f r h ih =>
    have hm := messages_frame h
    have hr := rest_frame h
    have hp := pass_frame (H := H) (s := ⟨b, acted, env⟩) h
    cases ha : act H f.toMessage env with
    | error e env' =>
      rw [ha] at hp
      rw [processBuffer_pass, hp]
      exact Decodes.raised [] (messages r) hm rfl ha
    | ok u env' =>
      rw [ha] at hp
      have front (ms : List Message) :
          actAll H (f.toMessage :: ms) env = actAll H ms env' := by
        rw [actAll_cons, ha]
      rw [processBuffer_pass, hp]
      have tail := ih (acted ++ [f.toMessage]) env'
      change Decodes H _ (processBuffer H ⟨r, acted ++ [f.toMessage], env'⟩)
      generalize processBuffer H ⟨r, acted ++ [f.toMessage], env'⟩ = o at tail ⊢
      cases tail with
      | returned all header =>
        have d := Decodes.returned (H := H) (s := ⟨b, acted, env⟩)
          (by rw [hm, front, all]) (hr ▸ header)
        simpa [hm, hr] using d
      | outOfRange all header =>
        have d := Decodes.outOfRange (H := H) (s := ⟨b, acted, env⟩)
          (by rw [hm, front, all]) (hr ▸ header)
        simpa [hm, hr] using d
      | @raised done later m e env₁ env₂ split all last =>
        have d := Decodes.raised (H := H) (s := ⟨b, acted, env⟩) (f.toMessage :: done) later
          (by rw [hm, split]; rfl) (by rw [front, all]) last
        have hb : rpcFrames.behind (done.length + 1) b = rpcFrames.behind done.length r :=
          FrameReader.behind_succ (R := rpcFrames.toFrameReader) h _
        simpa [hb] using d

end MessageProcessor

end Anbox.Rpc
