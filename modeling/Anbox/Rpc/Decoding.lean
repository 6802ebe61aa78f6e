import Anbox.Rpc.MessageProcessor

namespace Anbox.Rpc.MessageProcessor

open Anbox.Framework

variable {ε σ : Type} {H : Handlers ε σ}

theorem messages_append (b c : List UInt8) :
    messages (b ++ c) = messages b ++ messages (rpcFrames.rest b ++ c) := by
  simp only [messages, FrameReader.frames_append (R := rpcFrames.toFrameReader) b c,
    List.map_append]

theorem messages_rest (b : List UInt8) : messages (rpcFrames.rest b) = [] :=
  messages_wait (nextFrame_rest b)

theorem actAll_append (ms ns : List Message) (env : σ) :
    actAll H (ms ++ ns) env = match actAll H ms env with
      | .ok _ env' => actAll H ns env'
      | .error e env' => .error e env' := by
  induction ms generalizing env with
  | nil => rfl
  | cons m ms ih =>
    rw [List.cons_append, actAll_cons, actAll_cons]
    cases act H m env with
    | ok u env' => exact ih env'
    | error e env' => rfl

theorem actAll_append_ok {ms ns : List Message} {env env' : σ}
    (h : actAll H (ms ++ ns) env = .ok () env') :
    ∃ env₁, actAll H ms env = .ok () env₁ ∧ actAll H ns env₁ = .ok () env' := by
  rw [actAll_append] at h
  cases hm : actAll H ms env with
  | ok u env₁ => exact ⟨env₁, rfl, by simpa [hm] using h⟩
  | error e env₁ => simp [hm] at h

/-- A call with handlers that return and a header that is there whole, or not at all. -/
theorem processBuffer_returned {s : State σ} {env : σ}
    (all : actAll H (messages s.buffer_) s.env = .ok () env)
    (header : ¬ HeaderCut (rpcFrames.rest s.buffer_).length) :
    processBuffer H s =
      .returned ⟨rpcFrames.rest s.buffer_, s.acted ++ messages s.buffer_, env⟩ := by
  have d := processBuffer_decodes H s
  generalize processBuffer H s = o at d
  cases d with
  | returned all' header' =>
    rw [all] at all'
    cases all'
    rfl
  | outOfRange all' header' => exact absurd header' header
  | raised done later split all' last =>
    rw [split] at all
    obtain ⟨env₁, h₁, h₂⟩ := actAll_append_ok all
    rw [all'] at h₁
    cases h₁
    rw [actAll_cons, last] at h₂
    cases h₂

/-- The chunks end nowhere inside a header, and every handler returns: then all frames are acted
upon and the tail is kept. -/
theorem feed_returned {s : State σ} {cs : List (List UInt8)} {env : σ}
    (drained : messages s.buffer_ = [] ∧ rpcFrames.rest s.buffer_ = s.buffer_)
    (cuts : ∀ pre, pre <+: cs → ¬ HeaderCut (rpcFrames.rest (s.buffer_ ++ pre.flatten)).length)
    (all : actAll H (messages (s.buffer_ ++ cs.flatten)) s.env = .ok () env) :
    feed H s cs = some ⟨rpcFrames.rest (s.buffer_ ++ cs.flatten),
      s.acted ++ messages (s.buffer_ ++ cs.flatten), env⟩ := by
  induction cs generalizing s with
  | nil =>
    simp only [List.flatten_nil, List.append_nil, drained.1, drained.2] at all ⊢
    cases all
    rfl
  | cons c cs ih =>
    rw [List.flatten_cons, ← List.append_assoc] at all ⊢
    rw [messages_append] at all ⊢
    rw [rest_append (s.buffer_ ++ c)]
    obtain ⟨env₁, h₁, h₂⟩ := actAll_append_ok all
    have here : ¬ HeaderCut (rpcFrames.rest (s.buffer_ ++ c)).length := by
      simpa using cuts [c] ⟨cs, rfl⟩
    have call := processBuffer_returned (s := { s with buffer_ := s.buffer_ ++ c }) h₁ here
    have later := ih
      (s := ⟨rpcFrames.rest (s.buffer_ ++ c), s.acted ++ messages (s.buffer_ ++ c), env₁⟩)
      ⟨messages_rest _, rest_wait (nextFrame_rest _)⟩
      (by
        intro pre hp
        have := cuts (c :: pre) (List.cons_prefix_cons.mpr ⟨rfl, hp⟩)
        rwa [List.flatten_cons, ← List.append_assoc, rest_append] at this)
      h₂
    simp only [feed, processData, call, later, List.append_assoc]

/-! Counting shows that nothing else gives that result. A call that returns acts once upon each
frame it takes from the buffer; one that raises leaves its last frame there to be acted upon
again. -/

/-- The messages acted upon so far, and those still to come when `later` arrives. -/
def due (s : State σ) (later : List UInt8) : Nat :=
  s.acted.length + (messages (s.buffer_ ++ later)).length

theorem due_rest (s : State σ) (env : σ) (b later : List UInt8) :
    due ⟨rpcFrames.rest b, s.acted ++ messages b, env⟩ later =
      s.acted.length + (messages (b ++ later)).length := by
  simp only [due, messages_append b, List.length_append]
  omega

theorem due_behind (s : State σ) (env : σ) {b later : List UInt8} {done after : List Message}
    {m : Message} (h : messages b = done ++ m :: after) :
    due ⟨rpcFrames.behind done.length b, s.acted ++ (done ++ [m]), env⟩ later =
      s.acted.length + (messages (b ++ later)).length + 1 := by
  have hn : done.length ≤ (rpcFrames.frames b).length := by
    have := congrArg List.length h
    simp only [messages, List.length_map, List.length_append] at this
    omega
  have hl : done.length ≤ (messages (b ++ later)).length := by
    rw [messages_append, h]
    simp only [List.length_append]
    omega
  have hb : messages (rpcFrames.behind done.length b ++ later) =
      (messages (b ++ later)).drop done.length := by
    simp only [messages, FrameReader.frames_behind (R := rpcFrames.toFrameReader) hn later,
      List.map_drop]
  simp only [due, hb, List.length_append, List.length_drop, List.length_singleton]
  omega

/-- The count never falls, and it stays only where every call returns. -/
theorem feed_due {s t : State σ} {cs : List (List UInt8)} (h : feed H s cs = some t) :
    due s cs.flatten ≤ due t [] := by
  induction cs generalizing s with
  | nil =>
    obtain rfl := Option.some.inj h
    exact Nat.le_refl _
  | cons c cs ih =>
    have d := processBuffer_decodes H { s with buffer_ := s.buffer_ ++ c }
    simp only [feed, processData] at h
    generalize processBuffer H { s with buffer_ := s.buffer_ ++ c } = o at d h
    cases d with
    | returned all header =>
      have later := ih h
      rw [due_rest s] at later
      simpa [due] using later
    | outOfRange all header => cases h
    | raised done later split all last =>
      have later := ih h
      rw [due_behind s _ split] at later
      simp only [due, List.flatten_cons, ← List.append_assoc] at later ⊢
      omega

theorem feed_clean {s t : State σ} {cs : List (List UInt8)} (drained : messages s.buffer_ = [])
    (h : feed H s cs = some t) (hd : due t [] ≤ due s cs.flatten) :
    (∀ pre, pre ≠ [] → pre <+: cs →
      ¬ HeaderCut (rpcFrames.rest (s.buffer_ ++ pre.flatten)).length) ∧
    ∃ env, actAll H (messages (s.buffer_ ++ cs.flatten)) s.env = .ok () env := by
  induction cs generalizing s with
  | nil =>
    refine ⟨fun pre hn hp => absurd (List.prefix_nil.mp hp) hn, s.env, ?_⟩
    simp [drained]
  | cons c cs ih =>
    have d := processBuffer_decodes H { s with buffer_ := s.buffer_ ++ c }
    simp only [feed, processData] at h
    generalize processBuffer H { s with buffer_ := s.buffer_ ++ c } = o at d h
    cases d with
    | outOfRange all header => cases h
    | raised done later split all last =>
      have later := feed_due h
      rw [due_behind s _ split] at later
      simp only [due, List.flatten_cons, ← List.append_assoc] at later hd
      omega
    | @returned env all header =>
      have step : due t [] ≤ due ⟨rpcFrames.rest (s.buffer_ ++ c),
          s.acted ++ messages (s.buffer_ ++ c), env⟩ cs.flatten := by
        rw [due_rest s]
        simpa [due] using hd
      obtain ⟨cuts, env', rest⟩ := ih (messages_rest _) h step
      refine ⟨?_, env', ?_⟩
      · intro pre hn hp
        cases pre with
        | nil => exact absurd rfl hn
        | cons c' pre =>
          obtain ⟨rfl, hp'⟩ := List.cons_prefix_cons.mp hp
          by_cases hpre : pre = []
          · simpa [hpre] using header
          · have := cuts pre hpre hp'
            rwa [← rest_append, List.append_assoc, ← List.flatten_cons] at this
      · rw [List.flatten_cons, ← List.append_assoc, messages_append, actAll_append, all]
        exact rest

/-! The stream of the frames, and where a cut falls in it. -/

/-- How far behind the start of the current frame the first `p` bytes of the frames end. -/
def intoFrame : List Frame → Nat → Nat
  | [], p => p
  | f :: fs, p => if p < f.bytes.length then p else intoFrame fs (p - f.bytes.length)

theorem intoFrame_zero (fs : List Frame) : intoFrame fs 0 = 0 := by
  cases fs <;> simp [intoFrame, headerSize]

/-- Part of one more frame, or nothing. -/
def PartialFrame (tail : List UInt8) : Prop := ∃ f : Frame, tail <+: f.bytes ∧ tail ≠ f.bytes

theorem nextFrame_prefix {p b : List UInt8} (hp : p <+: b) (h : nextFrame b = none) :
    nextFrame p = none := by
  obtain ⟨c, rfl⟩ := hp
  cases hn : nextFrame p with
  | none => rfl
  | some q =>
    have := rpcFrames.next_append (f := q.1) (r := q.2) c hn
    exact absurd (this.symm.trans h) (by simp)

/-- Less than a frame holds no frame. -/
theorem nextFrame_part {p : List UInt8} {f : Frame} {c : List UInt8} (hp : p <+: f.bytes ++ c)
    (hl : p.length < f.bytes.length) : nextFrame p = none := by
  cases hn : nextFrame p with
  | none => rfl
  | some q =>
    obtain ⟨d, hd⟩ := hp
    have whole := rpcFrames.next_append (f := q.1) (r := q.2) d hn
    rw [hd] at whole
    have enc := (nextFrame_bytes f c).symm.trans whole
    obtain ⟨rfl, -⟩ := Prod.mk.inj (Option.some.inj enc)
    have := nextFrame_length (f := q.1) (r := q.2) hn
    rw [Frame.bytes_length] at hl
    omega

theorem PartialFrame.next {tail : List UInt8} (h : PartialFrame tail) : nextFrame tail = none := by
  obtain ⟨f, hp, hn⟩ := h
  have hl : tail.length < f.bytes.length :=
    Nat.lt_of_le_of_ne hp.length_le fun he => hn (hp.eq_of_length he)
  exact nextFrame_part (c := []) (by simpa using hp) hl

theorem rest_take {fs : List Frame} {tail : List UInt8} (ht : nextFrame tail = none) {p : Nat}
    (hp : p ≤ (fs.flatMap Frame.bytes ++ tail).length) :
    (rpcFrames.rest ((fs.flatMap Frame.bytes ++ tail).take p)).length = intoFrame fs p := by
  induction fs generalizing p with
  | nil =>
    have hn := nextFrame_prefix (List.take_prefix p tail) ht
    rw [List.flatMap_nil, List.nil_append] at hp ⊢
    rw [rest_wait hn, List.length_take, intoFrame, Nat.min_eq_left hp]
  | cons f fs ih =>
    rw [List.flatMap_cons, List.append_assoc] at hp ⊢
    rw [intoFrame]
    split_ifs with hf
    · have hl : ((f.bytes ++ (fs.flatMap Frame.bytes ++ tail)).take p).length = p := by
        rw [List.length_take, Nat.min_eq_left hp]
      have hn := nextFrame_part (List.take_prefix p (f.bytes ++ (fs.flatMap Frame.bytes ++ tail)))
        (hl.trans_lt hf)
      rw [rest_wait hn, hl]
    · have hle : f.bytes.length ≤ p := Nat.le_of_not_lt hf
      rw [List.take_append, List.take_of_length_le hle, rest_frame (nextFrame_bytes f _)]
      rw [List.length_append] at hp
      exact ih (by omega)

/-- However the stream of some frames and an unfinished one is cut into chunks: the messages are
acted upon in order and the unfinished one is kept, without a read out of range, precisely when no
chunk ends one to three bytes behind the start of a frame and no handler throws. -/
theorem process_data_chunks_iff (H : Handlers ε σ) (env : σ) (frames : List Frame)
    (tail : List UInt8) (chunks : List (List UInt8)) (htail : PartialFrame tail)
    (hcut : chunks.flatten = frames.flatMap Frame.bytes ++ tail) :
    (∃ t, feed H (init env) chunks = some t ∧ t.acted = frames.map Frame.toMessage ∧
      t.buffer_ = tail) ↔
    (∀ pre, pre <+: chunks → ¬ HeaderCut (intoFrame frames pre.flatten.length)) ∧
      ∃ env', actAll H (frames.map Frame.toMessage) env = .ok () env' := by
  have hnext := htail.next
  obtain ⟨hfs, htl⟩ := rpcFrames.drain_encode frames hnext
  have hm : messages chunks.flatten = frames.map Frame.toMessage := by
    rw [hcut]
    exact congrArg (List.map Frame.toMessage) hfs
  have hr : rpcFrames.rest chunks.flatten = tail := by
    rw [hcut]
    exact htl
  have offset {pre : List (List UInt8)} (hp : pre <+: chunks) :
      (rpcFrames.rest pre.flatten).length = intoFrame frames pre.flatten.length := by
    obtain ⟨post, rfl⟩ := hp
    rw [List.flatten_append] at hcut
    have hpre : pre.flatten = (frames.flatMap Frame.bytes ++ tail).take pre.flatten.length := by
      rw [← hcut, List.take_left]
    rw [hpre, rest_take hnext (by rw [← hcut, List.length_append]; omega), ← hpre]
  constructor
  · rintro ⟨t, ht, hacted, hbuf⟩
    have hd : due t [] ≤ due (init env) chunks.flatten := by
      simp [due, init, hacted, hbuf, hm, messages_wait hnext]
    obtain ⟨cuts, env', all⟩ := feed_clean (s := init env) (messages_wait rfl) ht hd
    simp only [init, List.nil_append] at cuts all
    refine ⟨fun pre hp => ?_, env', hm ▸ all⟩
    by_cases hn : pre = []
    · subst hn
      simp [intoFrame_zero, HeaderCut]
    · exact offset hp ▸ cuts pre hn hp
  · rintro ⟨cuts, env', all⟩
    have whole : actAll H (messages ((init env).buffer_ ++ chunks.flatten)) (init env).env =
        .ok () env' := by simpa [init, hm] using all
    have h := feed_returned ⟨messages_wait rfl, rest_wait rfl⟩
      (fun pre hp => by simpa [init, offset hp] using cuts pre hp) whole
    simp only [init, List.nil_append, hm, hr] at h
    exact ⟨_, h, rfl, rfl⟩

/-- Handlers that return without doing anything. -/
def quiet : Handlers Unit Unit := ⟨fun _ => pure (), fun _ => pure ()⟩

def oneByteFrame : Frame := ⟨⟨0, [7]⟩, by decide⟩

theorem process_data_two_chunks :
    ∃ t, feed quiet (init ()) [[0, 0, 1, 0], [7, 0, 0, 1, 0]] = some t ∧
      t.acted = [⟨0, [7]⟩] ∧ t.buffer_ = [0, 0, 1, 0] := by
  apply (process_data_chunks_iff quiet () [oneByteFrame] [0, 0, 1, 0] _
    ⟨oneByteFrame, by decide, by decide⟩ (by decide)).mpr
  refine ⟨?_, (), rfl⟩
  intro pre hp
  simp only [List.prefix_cons_iff, List.prefix_nil] at hp
  rcases hp with rfl | ⟨_, rfl, rfl | ⟨_, rfl, rfl⟩⟩ <;>
    simp [intoFrame, HeaderCut, headerSize, oneByteFrame, Frame.bytes, headerBytes]

/-- One frame, cut behind its first byte: the header is read past the end of the buffer. -/
theorem process_data_cut_header :
    [[0], [0, 1, 0, 7]].flatten = [oneByteFrame].flatMap Frame.bytes ++ [] ∧
      PartialFrame [] ∧ feed quiet (init ()) [[0], [0, 1, 0, 7]] = none := by
  refine ⟨by decide, ⟨oneByteFrame, by decide, by decide⟩, ?_⟩
  have hp : pass quiet ⟨[0], [], ()⟩ = .outOfRange := rfl
  simp [feed, processData, init, processBuffer_pass, hp]

/-! An exception leaves the frame in the buffer whose handler threw it. -/

/-- The bytes behind the last frame that a call acted upon, when it started in `s` with `data`
and ended in `t`. -/
def unread (s t : State σ) (data : List UInt8) : List UInt8 :=
  rpcFrames.behind (t.acted.length - s.acted.length) (s.buffer_ ++ data)

/-- A later call goes on behind that frame. -/
def Resumes (H : Handlers ε σ) (s t : State σ) (data more : List UInt8) : Prop :=
  processData H more t = processData H more { t with buffer_ := unread s t data }

theorem behind_length {b : List UInt8} {done later : List Message}
    (h : messages b = done ++ later) :
    b.length = (done.map fun m => headerSize + m.payload.length).sum +
      (rpcFrames.behind done.length b).length := by
  induction done generalizing b with
  | nil => simp
  | cons m done ih =>
    have pos : 0 < (rpcFrames.frames b).length := by
      have := congrArg List.length h
      simp only [messages, List.length_map, List.cons_append, List.length_cons] at this
      omega
    obtain ⟨f, r, hn⟩ := FrameReader.next_of_frames_pos (R := rpcFrames.toFrameReader) pos
    rw [messages_frame hn, List.cons_append] at h
    obtain ⟨rfl, ht⟩ := List.cons.inj h
    have hl := nextFrame_length hn
    have hr := ih ht
    have hb : rpcFrames.behind (done.length + 1) b = rpcFrames.behind done.length r :=
      FrameReader.behind_succ (R := rpcFrames.toFrameReader) hn _
    rw [List.map_cons, List.sum_cons, List.length_cons, hb]
    omega

/-- Where the raising call stops: in front of the frame `f`, with `unread` behind it. -/
theorem raised_frame {s t : State σ} {e : ε} {data : List UInt8}
    (h : processData H data s = .raised e t) :
    ∃ f : Frame, t.acted.getLast? = some f.toMessage ∧
      nextFrame t.buffer_ = some (f, unread s t data) := by
  have d := processBuffer_decodes H { s with buffer_ := s.buffer_ ++ data }
  rw [processData] at h
  rw [h] at d
  cases d with
  | @raised done later m _ env env' split all last =>
    have hlt : done.length < (rpcFrames.frames (s.buffer_ ++ data)).length := by
      have := congrArg List.length split
      simp only [messages, List.length_map, List.length_append, List.length_cons] at this
      omega
    have hm : (rpcFrames.frames (s.buffer_ ++ data))[done.length].toMessage = m := by
      have hs : (messages (s.buffer_ ++ data))[done.length]? = some m := by simp [split]
      rw [messages, List.getElem?_map, List.getElem?_eq_getElem hlt] at hs
      simpa using hs
    refine ⟨(rpcFrames.frames (s.buffer_ ++ data))[done.length], ?_, ?_⟩
    · simp [hm]
    · have hn := FrameReader.next_behind (R := rpcFrames.toFrameReader) hlt
      have hk : (s.acted ++ (done ++ [m])).length - s.acted.length = done.length + 1 := by simp
      rw [unread, hk]
      exact hn

/-- The later call acts upon the offending message again, and never goes on behind it. -/
theorem process_data_repeats_message (H : Handlers ε σ) (s t : State σ) (e : ε)
    (data more : List UInt8) (h : processData H data s = .raised e t) :
    ¬ Resumes H s t data more ∧
      ∃ m new, t.acted.getLast? = some m ∧
        (processData H more t).state.acted = t.acted ++ m :: new := by
  obtain ⟨f, hlast, hnext⟩ := raised_frame h
  have hn : nextFrame (t.buffer_ ++ more) = some (f, unread s t data ++ more) :=
    rpcFrames.next_append more hnext
  have hm := messages_frame hn
  have hl := nextFrame_length hn
  have again := processBuffer_decodes H { t with buffer_ := t.buffer_ ++ more }
  have resumed := processBuffer_decodes H
    { t with buffer_ := unread s t data ++ more }
  constructor
  · intro hr
    simp only [Resumes, processData] at hr
    rw [← hr] at resumed
    generalize processBuffer H { t with buffer_ := t.buffer_ ++ more } = o at again resumed
    cases again with
    | returned all header =>
      generalize ho : Outcome.returned _ = o at resumed
      cases resumed with
      | returned all' header' =>
        have := congrArg (fun o => o.state.acted.length) ho
        simp [Outcome.state, hm] at this
      | _ => cases ho
    | outOfRange all header =>
      generalize ho : Outcome.outOfRange _ = o at resumed
      cases resumed with
      | outOfRange all' header' =>
        have := congrArg (fun o => o.state.acted.length) ho
        simp [Outcome.state, hm] at this
      | _ => cases ho
    | raised done later split all last =>
      generalize ho : Outcome.raised _ _ = o at resumed
      cases resumed with
      | raised done' later' split' all' last' =>
        have hs := (Outcome.raised.inj ho).2
        have hd := List.append_inj_left' (List.append_cancel_left (congrArg State.acted hs)) rfl
        have hb := congrArg List.length (congrArg State.buffer_ hs)
        have b₁ := behind_length split
        have b₂ := behind_length split'
        subst hd
        simp only [headerSize] at hb b₁ b₂ hl
        omega
      | _ => cases ho
  · refine ⟨f.toMessage, ?_⟩
    change ∃ new, _ ∧ (processBuffer H { t with buffer_ := t.buffer_ ++ more }).state.acted = _
    generalize processBuffer H { t with buffer_ := t.buffer_ ++ more } = o at again
    cases again with
    | returned all header =>
      exact ⟨messages (unread s t data ++ more), hlast, by simp [Outcome.state, hm]⟩
    | outOfRange all header =>
      exact ⟨messages (unread s t data ++ more), hlast, by simp [Outcome.state, hm]⟩
    | @raised done later m e env env' split all last =>
      cases done with
      | nil =>
        obtain ⟨rfl, -⟩ := List.cons.inj (hm.symm.trans split)
        exact ⟨[], hlast, rfl⟩
      | cons m' done =>
        obtain ⟨rfl, -⟩ := List.cons.inj (hm.symm.trans split)
        exact ⟨done ++ [m], hlast, rfl⟩

/-- Handlers of which the one for invocations throws. -/
def failing : Handlers String Unit :=
  ⟨fun _ => throw "Failed to parse message parameters!", fun _ => pure ()⟩

theorem failing_raises :
    processData failing [0, 0, 0, 0] (init ()) =
      .raised "Failed to parse message parameters!" ⟨[0, 0, 0, 0], [⟨0, []⟩], ()⟩ := by
  have hp : pass failing ⟨[0, 0, 0, 0], [], ()⟩ =
      .raised "Failed to parse message parameters!" ⟨[0, 0, 0, 0], [⟨0, []⟩], ()⟩ := rfl
  simp [processData, init, processBuffer_pass, hp]

theorem process_data_repeats_failing :
    ¬ Resumes failing (init ()) ⟨[0, 0, 0, 0], [⟨0, []⟩], ()⟩ [0, 0, 0, 0] [0, 0, 0, 1] :=
  (process_data_repeats_message failing _ _ _ _ _ failing_raises).1

/-- Behind an invocation with parameters that do not parse comes a response; the invocation is
acted upon a second time and the response is not reached. -/
theorem process_data_stuck_on_failing :
    ∃ t e t', processData failing [0, 0, 0, 0] (init ()) =
        .raised "Failed to parse message parameters!" t ∧
      processData failing [0, 0, 0, 1] t = .raised e t' ∧ t'.acted = [⟨0, []⟩, ⟨0, []⟩] := by
  refine ⟨_, "Failed to parse message parameters!",
    ⟨[0, 0, 0, 0, 0, 0, 0, 1], [⟨0, []⟩, ⟨0, []⟩], ()⟩, failing_raises, ?_, rfl⟩
  have hp : pass failing ⟨[0, 0, 0, 0, 0, 0, 0, 1], [⟨0, []⟩], ()⟩ =
      .raised "Failed to parse message parameters!"
        ⟨[0, 0, 0, 0, 0, 0, 0, 1], [⟨0, []⟩, ⟨0, []⟩], ()⟩ := rfl
  simp [processData, processBuffer_pass, hp]

end Anbox.Rpc.MessageProcessor
