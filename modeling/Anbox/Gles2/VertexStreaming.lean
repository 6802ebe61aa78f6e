import Anbox.Framework.Run
import Anbox.Gles2.MirroredDraws

namespace Anbox.Gles2

open Anbox.Framework

namespace Mirrors

variable {maxIndex : Nat} {s : App} {e : GL2Encoder} {h h' : GLESv2Decoder}

/-! Buffers. -/

theorem bindBuffer (m : Mirrors maxIndex s e h) (target : GLenum) (id : GLuint) :
    Mirrors maxIndex
      { s with
        gl := s.gl.bindBuffer target id
        lent := s.lent && decide (target ≠ GL_ELEMENT_ARRAY_BUFFER) }
      { e with mState := e.mState.bindBuffer target id } { h with gl := h.gl.bindBuffer target id } := by
  have other : GL_ARRAY_BUFFER ≠ GL_ELEMENT_ARRAY_BUFFER := by decide
  by_cases array : target = GL_ARRAY_BUFFER
  · subst array
    simp only [GLContext.bindBuffer, GLClientState.bindBuffer, if_true, other, ne_eq, not_false_eq_true,
      decide_true, Bool.and_true]
    exact ⟨m.1, m.2, m.3, rfl, m.5, rfl, m.7, m.8, m.9, m.10, m.11, m.12, m.13⟩
  by_cases index : target = GL_ELEMENT_ARRAY_BUFFER
  · subst index
    simp only [GLContext.bindBuffer, GLClientState.bindBuffer, if_true, other.symm, if_false, ne_eq,
      not_true_eq_false, decide_false, Bool.and_false]
    exact ⟨m.1, m.2, m.3, m.4, rfl, m.6, rfl, m.8, m.9, m.10, m.11, m.12, m.13⟩
  · simp only [GLContext.bindBuffer, GLClientState.bindBuffer, array, index, if_false, ne_eq,
      not_false_eq_true,
      decide_true, Bool.and_true]
    exact m

/-- A store is filled on all sides. -/
theorem fill (m : Mirrors maxIndex s e h) {id : GLuint} (named : id ≠ 0) (c : List (Option UInt8)) :
    Mirrors maxIndex { s with gl := { s.gl with buffers := Function.update s.gl.buffers id c } }
      (e.updateBufferData id c)
      { h with gl := { h.gl with buffers := Function.update h.gl.buffers id c } } := by
  refine ⟨congrArg (Function.update · id c) m.stores, ?_, ?_, m.4, m.5, m.6, m.7, m.8, m.9, m.10, m.11,
    m.12, m.13⟩
  · intro id'
    by_cases same : id' = id
    · subst same
      simp only [GL2Encoder.updateBufferData, Function.update_self, Option.elim_some]
    · simp only [GL2Encoder.updateBufferData, Function.update_of_ne same]
      exact m.copies id'
  · simp only [Function.update_of_ne named.symm]
    exact m.unnamed

theorem isTarget_iff (g : GLContext) (target : GLenum) :
    GL2Encoder.isTarget target ↔ g.bound target ≠ none := by
  rw [GL2Encoder.isTarget, GLContext.bound]
  split_ifs <;> simp_all

theorem getBuffer_eq (m : Mirrors maxIndex s e h) {target : GLenum} {id : GLuint}
    (bound : s.gl.bound target = some id) : e.mState.getBuffer target = id := by
  rw [GLContext.bound] at bound
  rw [GLClientState.getBuffer]
  split_ifs at bound ⊢
  · exact m.array.trans (Option.some.inj bound)
  · exact m.index.trans (Option.some.inj bound)

/-- The host has bound what the app has, unless the index buffer was taken off. -/
theorem hostBound (m : Mirrors maxIndex s e h) {target : GLenum}
    (there : target = GL_ELEMENT_ARRAY_BUFFER → s.lent = false) :
    h.gl.bound target = s.gl.bound target := by
  rw [GLContext.bound, GLContext.bound]
  split_ifs with array index
  · rw [m.hostArray]
  · rw [m.hostIndex, there index, if_neg Bool.false_ne_true]
  · rfl

theorem bufferData (m : Mirrors maxIndex s e h) {mem : ByteMemory} {target : GLenum} {size data : Int}
    {usage : GLenum} {g' : GLContext}
    (covered : s.Covered maxIndex (mem, .bufferData target size data usage))
    (did : s.gl.bufferData target size usage
      (if data = 0 then some (List.replicate size.toNat none)
        else (load mem data size.toNat).map (List.map some)) = some g') :
    ∃ e' cs h', e.sGlBufferData mem target size data usage = some (e', cs) ∧
      h.decodeAll maxIndex cs = some (h', []) ∧ Mirrors maxIndex { s with gl := g' } e' h' := by
  obtain ⟨known, small, there⟩ := covered
  rw [GLContext.bufferData] at did
  cases bound : s.gl.bound target with
  | none =>
    rw [bound] at did
    obtain rfl := Option.some.inj did
    refine ⟨e.setError GL_INVALID_ENUM, [], h, ?_, rfl, m.setError _⟩
    rw [GL2Encoder.sGlBufferData, if_pos fun valid => (isTarget_iff s.gl target).mp valid bound]
  | some id =>
    rw [bound] at did
    dsimp only at did
    have target_valid := (isTarget_iff s.gl target).mpr (by rw [bound]; exact Option.some_ne_none id)
    by_cases zero : id = 0
    · rw [if_pos (Or.inl zero)] at did
      obtain rfl := Option.some.inj did
      refine ⟨e.setError GL_INVALID_OPERATION, [], h, ?_, rfl, m.setError _⟩
      rw [GL2Encoder.sGlBufferData, if_neg (not_not.mpr target_valid), m.getBuffer_eq bound, if_pos zero]
    by_cases negative : size < 0
    · rw [if_pos (Or.inr (Or.inl negative))] at did
      obtain rfl := Option.some.inj did
      refine ⟨e.setError GL_INVALID_VALUE, [], h, ?_, rfl, m.setError _⟩
      rw [GL2Encoder.sGlBufferData, if_neg (not_not.mpr target_valid), m.getBuffer_eq bound, if_neg zero,
        if_pos negative]
    · have fine : ¬(id = 0 ∨ size < 0 ∨ usage ∉ usages) := by
        simp only [not_or, not_not]
        exact ⟨zero, negative, known⟩
      have wire : (uint32 size : Int) = size := uint32_eq (by omega) small
      rw [if_neg fine] at did
      obtain ⟨c, hc, rfl⟩ := Option.map_eq_some_iff.mp did
      -- the host is sent what the app's store is filled with
      have host (sent : Option (List UInt8))
          (same : sent.elim (List.replicate size.toNat none) (List.map some) = c) :
          h.decodeAll maxIndex [.glBufferData target (uint32 size) sent usage] =
            some ({ h with gl := { h.gl with buffers := Function.update h.gl.buffers id c } }, []) := by
        rw [GLESv2Decoder.decodeAll, GLESv2Decoder.decode, GLContext.bufferData, m.hostBound there,
          bound, wire]
        dsimp only
        rw [if_neg fine, same]
        rfl
      by_cases null : data = 0
      · rw [if_pos null] at hc
        refine ⟨_, _, _, ?_, host none (Option.some.inj hc), m.fill zero c⟩
        rw [GL2Encoder.sGlBufferData, if_neg (not_not.mpr target_valid), m.getBuffer_eq bound, if_neg zero,
          if_neg negative, if_pos null, Option.some.inj hc]
      · rw [if_neg null] at hc
        obtain ⟨bytes, read, rfl⟩ := Option.map_eq_some_iff.mp hc
        refine ⟨_, _, _, ?_, host (some bytes) rfl, m.fill zero (bytes.map some)⟩
        rw [GL2Encoder.sGlBufferData, if_neg (not_not.mpr target_valid), m.getBuffer_eq bound, if_neg zero,
          if_neg negative, if_neg null, read, Option.map_some]

theorem bufferSubData (m : Mirrors maxIndex s e h) {mem : ByteMemory} {target : GLenum}
    {offset size data : Int} {g' : GLContext}
    (covered : s.Covered maxIndex (mem, .bufferSubData target offset size data))
    (did : s.gl.bufferSubData target offset size (load mem data size.toNat) = some g') :
    ∃ e' cs h', e.sGlBufferSubData mem target offset size data = some (e', cs) ∧
      h.decodeAll maxIndex cs = some (h', []) ∧ Mirrors maxIndex { s with gl := g' } e' h' := by
  obtain ⟨small, there⟩ := covered
  rw [GLContext.bufferSubData] at did
  cases bound : s.gl.bound target with
  | none =>
    rw [bound] at did
    obtain rfl := Option.some.inj did
    refine ⟨e.setError GL_INVALID_ENUM, [], h, ?_, rfl, m.setError _⟩
    rw [GL2Encoder.sGlBufferSubData, if_pos fun valid => (isTarget_iff s.gl target).mp valid bound]
  | some id =>
    rw [bound] at did
    dsimp only at did
    have target_valid := (isTarget_iff s.gl target).mpr (by rw [bound]; exact Option.some_ne_none id)
    by_cases zero : id = 0
    · rw [if_pos (Or.inl zero)] at did
      obtain rfl := Option.some.inj did
      refine ⟨e.setError GL_INVALID_OPERATION, [], h, ?_, rfl, m.setError _⟩
      rw [GL2Encoder.sGlBufferSubData, if_neg (not_not.mpr target_valid), m.getBuffer_eq bound,
        if_pos zero]
    · have same := m.copies id
      by_cases bad : offset < 0 ∨ size < 0 ∨ ((s.gl.buffers id).length : Int) < offset + size
      · rw [if_pos (Or.inr bad)] at did
        obtain rfl := Option.some.inj did
        have refused : e.subUpdateBufferData id offset size = none := by
          rw [GL2Encoder.subUpdateBufferData]
          cases found : e.mShared id with
          | none => rfl
          | some buf =>
            rw [found, Option.elim_some] at same
            have room : buf.mSize = (s.gl.buffers id).length := by rw [BufferData.mSize, same]
            have wrong : buf.mSize < intptr (offset + size) ∨ offset < 0 ∨ size < 0 := by
              by_cases signs : offset < 0 ∨ size < 0
              · exact Or.inr signs
              · have sum := small (by omega) (by omega)
                rw [intptr_eq (by omega) (by omega)]
                omega
            rw [Option.filter_some, if_neg]
            exact fun fits => of_decide_eq_true fits wrong
        refine ⟨e.setError GL_INVALID_VALUE, [], h, ?_, rfl, m.setError _⟩
        rw [GL2Encoder.sGlBufferSubData, if_neg (not_not.mpr target_valid), m.getBuffer_eq bound,
          if_neg zero, refused]
      · have fine : ¬(id = 0 ∨ offset < 0 ∨ size < 0 ∨ ((s.gl.buffers id).length : Int) < offset + size) :=
          not_or.mpr ⟨zero, bad⟩
        have sum := small (by omega) (by omega)
        rw [if_neg fine] at did
        obtain ⟨bytes, read, rfl⟩ := Option.map_eq_some_iff.mp did
        cases found : e.mShared id with
        | none =>
          -- a name without a store: nothing fits into it but nothing
          rw [found, Option.elim_none] at same
          have none : size.toNat = 0 ∧ offset.toNat = 0 := by
            rw [← same, List.length_nil] at bad
            omega
          have empty : bytes = [] := by
            have := length_of_load read
            rw [none.1] at this
            exact List.length_eq_zero_iff.mp this
          have unchanged :
              Function.update s.gl.buffers id (GLContext.splice (s.gl.buffers id) offset.toNat bytes) =
                s.gl.buffers := by
            rw [← same, none.2, empty]
            exact (congrArg (Function.update s.gl.buffers id) same).trans (Function.update_eq_self _ _)
          refine ⟨e.setError GL_INVALID_VALUE, [], h, ?_, rfl, ?_⟩
          · rw [GL2Encoder.sGlBufferSubData, if_neg (not_not.mpr target_valid), m.getBuffer_eq bound,
              if_neg zero, GL2Encoder.subUpdateBufferData, found]
            rfl
          · rw [unchanged]
            exact m.setError _
        | some buf =>
          rw [found, Option.elim_some] at same
          have room : buf.mSize = (s.gl.buffers id).length := by rw [BufferData.mSize, same]
          have taken : e.subUpdateBufferData id offset size = some buf := by
            have fits : ¬(buf.mSize < intptr (offset + size) ∨ offset < 0 ∨ size < 0) := by
              rw [intptr_eq (by omega) (by omega)]
              omega
            rw [GL2Encoder.subUpdateBufferData, found, Option.filter_some, if_pos (decide_eq_true fits)]
          have wire : (uint32 size : Int) = size := uint32_eq (by omega) (by omega)
          have wire' : (uint32 offset : Int) = offset := uint32_eq (by omega) (by omega)
          refine ⟨_, [.glBufferSubData target (uint32 offset) (uint32 size) bytes], _, ?_, ?_,
            m.fill zero (GLContext.splice (s.gl.buffers id) offset.toNat bytes)⟩
          · rw [GL2Encoder.sGlBufferSubData, if_neg (not_not.mpr target_valid), m.getBuffer_eq bound,
              if_neg zero, taken, read]
            dsimp only
            rw [same]
            rfl
          · rw [GLESv2Decoder.decodeAll, GLESv2Decoder.decode, GLContext.bufferSubData,
              m.hostBound there, bound,
              wire, wire', m.stores]
            dsimp only
            rw [if_neg fine]
            rfl

theorem unBindBuffer_array (c : GLClientState) (id : GLuint) :
    (c.unBindBuffer id).mCurrentArrayVbo =
      if c.mCurrentArrayVbo = id then 0 else c.mCurrentArrayVbo := by
  rw [GLClientState.unBindBuffer]
  split_ifs <;> rfl

theorem unBindBuffer_index (c : GLClientState) {id : GLuint}
    (once : id ≠ 0 → ¬(c.mCurrentArrayVbo = id ∧ c.mCurrentIndexVbo = id)) :
    (c.unBindBuffer id).mCurrentIndexVbo =
      if c.mCurrentIndexVbo = id then 0 else c.mCurrentIndexVbo := by
  rw [GLClientState.unBindBuffer]
  by_cases array : c.mCurrentArrayVbo = id
  · rw [if_pos array]
    by_cases index : c.mCurrentIndexVbo = id
    · by_cases zero : id = 0
      · rw [if_pos index]
        exact index.trans zero
      · exact absurd ⟨array, index⟩ (once zero)
    · rw [if_neg index]
  · rw [if_neg array]
    split_ifs <;> rfl

theorem unBindBuffer_states (c : GLClientState) (id : GLuint) :
    (c.unBindBuffer id).mStates = c.mStates := by
  rw [GLClientState.unBindBuffer]
  split_ifs <;> rfl

/-- One name is deleted, by the app and on the wire. -/
theorem deleteBuffer (m : Mirrors maxIndex s e h) {id : GLuint}
    (once : id ≠ 0 → ¬(s.gl.arrayBuffer = id ∧ s.gl.elementArrayBuffer = id)) :
    Mirrors maxIndex
      { s with
        gl := s.gl.deleteBuffer id
        lost := fun loc =>
          s.lost loc || decide ((s.gl.arrays loc).buffer ≠ 0 ∧ (s.gl.arrays loc).buffer = id) }
      (e.deleteBuffer id) { h with gl := h.gl.deleteBuffer id } := by
  have once' : id ≠ 0 → ¬(e.mState.mCurrentArrayVbo = id ∧ e.mState.mCurrentIndexVbo = id) := by
    rwa [m.array, m.index]
  have copies (id' : GLuint) : ((e.deleteBuffer id).mShared id').elim [] BufferData.mFixedBuffer =
      if id' = id then [] else s.gl.buffers id' := by
    by_cases same : id' = id
    · subst same
      rw [if_pos rfl, GL2Encoder.deleteBuffer, GL2Encoder.deleteBufferData]
      simp only [Function.update_self, Option.elim_none]
    · rw [if_neg same, GL2Encoder.deleteBuffer, GL2Encoder.deleteBufferData]
      simp only [Function.update_of_ne same]
      exact m.copies id'
  have states : (e.deleteBuffer id).mState.mStates = e.mState.mStates :=
    unBindBuffer_states e.mState id
  by_cases zero : id = 0
  · have unchanged (g : GLContext) : g.deleteBuffer id = g := if_pos zero
    refine ⟨?_, ?_, ?_, ?_, ?_, ?_, ?_, ?_, ?_, ?_, ?_, ?_, ?_⟩
    · rw [unchanged, unchanged]
      exact m.stores
    · intro id'
      rw [copies, unchanged]
      split_ifs with same
      · rw [same, zero, m.unnamed]
      · rfl
    · rw [unchanged]
      exact m.unnamed
    · have := unBindBuffer_array e.mState id
      rw [zero, ite_eq_right_iff.mpr Eq.symm] at this
      rw [unchanged, zero]
      exact this.trans m.array
    · have := unBindBuffer_index e.mState once'
      rw [zero, ite_eq_right_iff.mpr Eq.symm] at this
      rw [unchanged, zero]
      exact this.trans m.index
    · rw [unchanged, unchanged]
      exact m.hostArray
    · rw [unchanged, unchanged]
      exact m.hostIndex
    · rw [states, unchanged]
      exact m.enabled
    · rw [unchanged]
      exact m.within
    · rw [unchanged]
      exact m.hostWithin
    · rw [states, unchanged, unchanged]
      exact m.clean
    · rw [unchanged]
      exact m.valid
    · intro loc hl found
      rw [states, unchanged]
      exact m.notes loc hl (Bool.or_eq_false_iff.mp found).1
  · have gone (g : GLContext) : g.deleteBuffer id = { g with
        buffers := Function.update g.buffers id []
        arrayBuffer := if g.arrayBuffer = id then 0 else g.arrayBuffer
        elementArrayBuffer := if g.elementArrayBuffer = id then 0 else g.elementArrayBuffer
        arrays := fun loc =>
          if (g.arrays loc).buffer = id then { g.arrays loc with buffer := 0 } else g.arrays loc } :=
      if_neg zero
    rw [gone s.gl, gone h.gl]
    refine ⟨congrArg (Function.update · id []) m.stores, ?_, ?_, ?_, ?_, ?_, ?_, ?_, m.within,
      m.hostWithin, ?_, ?_, ?_⟩
    · intro id'
      rw [copies]
      by_cases same : id' = id
      · rw [if_pos same, same]
        exact (Function.update_self id [] s.gl.buffers).symm
      · rw [if_neg same]
        exact (Function.update_of_ne same [] s.gl.buffers).symm
    · exact (Function.update_of_ne (Ne.symm zero) [] s.gl.buffers).trans m.unnamed
    · exact (unBindBuffer_array e.mState id).trans (by rw [m.array])
    · exact (unBindBuffer_index e.mState once').trans (by rw [m.index])
    · dsimp only
      rw [m.hostArray]
    · dsimp only
      rw [m.hostIndex]
      split_ifs <;> simp_all
    · rw [states]
      exact m.enabled
    · rw [states]
      exact m.clean
    · intro loc
      dsimp only
      split_ifs
      · exact ⟨(m.valid loc).1, (m.valid loc).2, (m.valid loc).3, (m.valid loc).4, (m.valid loc).5⟩
      · exact m.valid loc
    · intro loc hl found
      obtain ⟨found, other⟩ := Bool.or_eq_false_iff.mp found
      rw [decide_eq_false_iff_not] at other
      have stays : (s.gl.arrays loc).buffer ≠ id := fun same => other ⟨same ▸ zero, same⟩
      dsimp only
      rw [states, if_neg stays]
      exact m.notes loc hl found

/-- The names are deleted one by one. -/
theorem deleteBuffers (m : Mirrors maxIndex s e h) (ids : List GLuint)
    (once : ∀ id ∈ ids, id ≠ 0 → ¬(s.gl.arrayBuffer = id ∧ s.gl.elementArrayBuffer = id)) :
    ∃ h', h.decodeAll maxIndex (ids.map .glDeleteBuffer) = some (h', []) ∧
      Mirrors maxIndex
        { s with
          gl := ids.foldl GLContext.deleteBuffer s.gl
          lost := fun loc =>
            s.lost loc || decide ((s.gl.arrays loc).buffer ≠ 0 ∧ (s.gl.arrays loc).buffer ∈ ids) }
        (ids.foldl GL2Encoder.deleteBuffer e) h' := by
  induction ids generalizing s e h with
  | nil =>
    refine ⟨h, rfl, ?_⟩
    simp only [List.not_mem_nil, and_false, decide_false, Bool.or_false]
    exact m
  | cons id ids ih =>
    obtain ⟨first, later⟩ := List.forall_mem_cons.mp once
    have step := m.deleteBuffer first
    have still : ∀ id' ∈ ids, id' ≠ 0 →
        ¬((s.gl.deleteBuffer id).arrayBuffer = id' ∧ (s.gl.deleteBuffer id).elementArrayBuffer = id') := by
      intro id' there named both
      have keep (b : GLuint) (hb : (if b = id then 0 else b) = id') : b = id' := by
        split_ifs at hb
        · exact absurd hb.symm named
        · exact hb
      refine later id' there named ?_
      rw [GLContext.deleteBuffer] at both
      by_cases zero : id = 0
      · rwa [if_pos zero] at both
      · rw [if_neg zero] at both
        exact ⟨keep _ both.1, keep _ both.2⟩
    obtain ⟨h', decoded, m'⟩ := ih step still
    refine ⟨h', ?_, ?_⟩
    · rw [List.map_cons, GLESv2Decoder.decodeAll, GLESv2Decoder.decode, Option.bind_some, decoded]
      rfl
    · have lost : (fun loc => s.lost loc || decide ((s.gl.arrays loc).buffer ≠ 0 ∧
          (s.gl.arrays loc).buffer ∈ id :: ids)) =
          fun loc =>
            (s.lost loc || decide ((s.gl.arrays loc).buffer ≠ 0 ∧ (s.gl.arrays loc).buffer = id)) ||
            decide (((s.gl.deleteBuffer id).arrays loc).buffer ≠ 0 ∧
              ((s.gl.deleteBuffer id).arrays loc).buffer ∈ ids) := by
        funext loc
        rw [GLContext.deleteBuffer]
        by_cases zero : id = 0
        · by_cases none : (s.gl.arrays loc).buffer = 0 <;> simp [zero, none]
        · by_cases same : (s.gl.arrays loc).buffer = id <;> simp [zero, same]
      rw [lost]
      exact m'

/-! The state of the arrays. -/

theorem validLocation_iff (index : GLuint) :
    GLClientState.validLocation (int32 index.toNat) ↔ index.toNat < CODEC_MAX_VERTEX_ATTRIBUTES := by
  have bound := index.toNat_lt
  rw [GLClientState.validLocation, int32, Int.bmod_def, CODEC_MAX_VERTEX_ATTRIBUTES]
  omega

theorem location_toNat {index : GLuint} (inside : index.toNat < CODEC_MAX_VERTEX_ATTRIBUTES) :
    (int32 index.toNat).toNat = index.toNat := by
  rw [CODEC_MAX_VERTEX_ATTRIBUTES] at inside
  rw [int32_eq (by omega) (by omega), Int.toNat_natCast]

theorem edit_eq (c : GLClientState) {index : GLuint} (inside : index.toNat < CODEC_MAX_VERTEX_ATTRIBUTES)
    (f : VertexAttribState → VertexAttribState) :
    c.edit (int32 index.toNat) f =
      { c with mStates := Function.update c.mStates index.toNat (f (c.mStates index.toNat)) } := by
  rw [GLClientState.edit, if_neg (not_not.mpr ((validLocation_iff index).mpr inside)),
    location_toNat inside]

theorem edit_beyond (c : GLClientState) {index : GLuint}
    (beyond : ¬index.toNat < CODEC_MAX_VERTEX_ATTRIBUTES) (f : VertexAttribState → VertexAttribState) :
    c.edit (int32 index.toNat) f = c := by
  rw [GLClientState.edit, if_pos (fun valid => beyond ((validLocation_iff index).mp valid))]

/-- What is noted of the arrays changes, and nothing else. -/
theorem renote (m : Mirrors maxIndex s e h) {states : Nat → VertexAttribState} {arrays : Nat → VertexArray}
    {lost : Nat → Bool} (enabled : ∀ loc, (states loc).enabled = (e.mState.mStates loc).enabled)
    (dirty : ∀ loc, (states loc).enableDirty = (e.mState.mStates loc).enableDirty)
    (valid : ∀ loc, (arrays loc).Valid)
    (notes : ∀ loc < maxIndex, lost loc = false →
      arrays loc = VertexArray.initial ∨ (states loc).Notes (arrays loc)) :
    Mirrors maxIndex { s with gl := { s.gl with arrays := arrays }, lost := lost }
      { e with mState := { e.mState with mStates := states } } h := by
  refine ⟨m.1, m.2, m.3, m.4, m.5, m.6, m.7, ?_, m.9, m.10, ?_, valid, notes⟩
  · intro loc hl
    exact (enabled loc).trans (m.enabled loc hl)
  · intro loc hl clean
    exact m.clean loc hl ((dirty loc).symm.trans clean)

/-- An array is specified; the host is not told. -/
theorem vertexAttribPointer (m : Mirrors maxIndex s e h) (small : maxIndex ≤ CODEC_MAX_VERTEX_ATTRIBUTES)
    {mem : ByteMemory} {index : GLuint} {size : Int} {type : GLenum} {normalized : Bool}
    {stride pointer : Int}
    (covered : s.Covered maxIndex (mem, .vertexAttribPointer index size type normalized stride pointer)) :
    Mirrors maxIndex
      { s with
        gl := s.gl.vertexAttribPointer maxIndex index size type normalized stride pointer
        lost := Function.update s.lost index.toNat false }
      (e.sGlVertexAttribPointer index size type normalized stride pointer) h := by
  rw [GL2Encoder.sGlVertexAttribPointer, GLClientState.setState]
  by_cases inside : index.toNat < CODEC_MAX_VERTEX_ATTRIBUTES
  · rw [edit_eq _ inside, GLContext.vertexAttribPointer]
    by_cases there : index.toNat < maxIndex
    · have taken := covered there
      have valid : (⟨size, type, normalized, stride, s.gl.arrayBuffer, pointer⟩ : VertexArray).Valid :=
        ⟨taken.1, taken.2, taken.3, taken.4, taken.5⟩
      have element : (if size ≠ 0 then uint32 (glSizeof type * size) else 0) =
          (⟨size, type, normalized, stride, s.gl.arrayBuffer, pointer⟩ : VertexArray).width := by
        have some : size ≠ 0 := by
          have := taken.size_pos
          dsimp only at this
          omega
        have same := valid.glSizeof_mul
        have short := valid.width_le
        rw [if_pos some, same, uint32_natCast (by omega)]
      rw [if_pos ⟨there, valid⟩, element]
      apply m.renote
      · intro loc
        by_cases same : loc = index.toNat
        · rw [same, Function.update_self]
        · rw [Function.update_of_ne same]
      · intro loc
        by_cases same : loc = index.toNat
        · rw [same, Function.update_self]
        · rw [Function.update_of_ne same]
      · intro loc
        by_cases same : loc = index.toNat
        · rw [same, Function.update_self]
          exact valid
        · rw [Function.update_of_ne same]
          exact m.valid loc
      · intro loc hl found
        by_cases same : loc = index.toNat
        · rw [same, Function.update_self, Function.update_self]
          exact Or.inr ⟨rfl, rfl, rfl, rfl, rfl, m.array, rfl⟩
        · rw [Function.update_of_ne same] at found
          rw [Function.update_of_ne same, Function.update_of_ne same]
          exact m.notes loc hl found
    · rw [if_neg fun both => there both.1]
      apply m.renote
      · intro loc
        by_cases same : loc = index.toNat
        · rw [same, Function.update_self]
        · rw [Function.update_of_ne same]
      · intro loc
        by_cases same : loc = index.toNat
        · rw [same, Function.update_self]
        · rw [Function.update_of_ne same]
      · exact m.valid
      · intro loc hl found
        have ne : loc ≠ index.toNat := by omega
        rw [Function.update_of_ne ne] at found ⊢
        exact m.notes loc hl found
  · rw [edit_beyond _ inside, GLContext.vertexAttribPointer]
    rw [if_neg fun both => inside (by omega)]
    refine m.renote (fun _ => rfl) (fun _ => rfl) m.valid ?_
    intro loc hl found
    rw [Function.update_of_ne (by omega)] at found
    exact m.notes loc hl found

theorem enableVertexAttribArray (m : Mirrors maxIndex s e h)
    (small : maxIndex ≤ CODEC_MAX_VERTEX_ATTRIBUTES) (index : GLuint) (on : Bool) :
    Mirrors maxIndex { s with gl := s.gl.enableVertexAttribArray maxIndex index on }
      (e.sGlEnableVertexAttribArray maxIndex index (if on then 1 else 0)) h := by
  rw [GLContext.enableVertexAttribArray, GL2Encoder.sGlEnableVertexAttribArray]
  by_cases there : index.toNat < maxIndex
  · have inside : index.toNat < CODEC_MAX_VERTEX_ATTRIBUTES := by omega
    rw [if_pos there, if_neg (not_not.mpr there), GLClientState.enable, edit_eq _ inside]
    refine ⟨m.1, m.2, m.3, m.4, m.5, m.6, m.7, ?_, ?_, m.10, ?_, m.12, ?_⟩
    · intro loc hl
      by_cases same : loc = index.toNat
      · subst same
        simp only [Function.update_self]
      · simp only [Function.update_of_ne same]
        exact m.enabled loc hl
    · intro loc hl
      have ne : loc ≠ index.toNat := by omega
      exact (Function.update_of_ne ne on s.gl.enabled).trans (m.within loc hl)
    · intro loc hl
      by_cases same : loc = index.toNat
      · subst same
        dsimp only
        rw [Function.update_self, Function.update_self]
        intro clean
        obtain ⟨clean, unchanged⟩ := Bool.or_eq_false_iff.mp clean
        rw [decide_eq_false_iff_not, not_not, m.enabled _ inside] at unchanged
        rw [m.clean _ inside clean]
        revert unchanged
        cases on <;> cases s.gl.enabled index.toNat <;> decide
      · dsimp only
        rw [Function.update_of_ne same, Function.update_of_ne same]
        exact m.clean loc hl
    · intro loc hl found
      by_cases same : loc = index.toNat
      · subst same
        dsimp only
        rw [Function.update_self]
        cases m.notes index.toNat hl found with
        | inl initial => exact Or.inl initial
        | inr notes => exact Or.inr ⟨notes.1, notes.2, notes.3, notes.4, notes.5, notes.6, notes.7⟩
      · dsimp only
        rw [Function.update_of_ne same]
        exact m.notes loc hl found
  · rw [if_neg there, if_pos there]
    exact m.setError _

end Mirrors

/-- The guest follows the app, and its host has drawn as much. -/
def Follows (maxIndex : Nat) (s : App) (t : Streamed) : Prop :=
  Mirrors maxIndex s t.encoder t.host ∧ t.drawn = s.drawn

variable {maxIndex : Nat}

/-- A call that the codec covers is encoded, and the commands do on the host what the call asks for. -/
theorem follows_call (small : maxIndex ≤ CODEC_MAX_VERTEX_ATTRIBUTES) (s : App) (t : Streamed)
    (a : ByteMemory × Call) (s' : App) (f : Follows maxIndex s t) (covered : s.Covered maxIndex a)
    (did : s.call maxIndex a = some s') : ∃ t', t.call maxIndex a = some t' ∧ Follows maxIndex s' t' := by
  obtain ⟨m, same⟩ := f
  obtain ⟨⟨gl, drawn⟩, done, rfl⟩ := Option.map_eq_some_iff.mp did
  suffices h : ∃ e' cs h', t.encoder.call maxIndex a.1 a.2 = some (e', cs) ∧
      t.host.decodeAll maxIndex cs = some (h', drawn) ∧
      Mirrors maxIndex ⟨gl, s.lentAfter maxIndex a.2, s.lostAfter a.2, s.drawn⟩ e' h' by
    obtain ⟨e', cs, h', encoded, decoded, m'⟩ := h
    refine ⟨⟨e', h', t.drawn ++ drawn⟩, ?_, ⟨m'.1, m'.2, m'.3, m'.4, m'.5, m'.6, m'.7, m'.8, m'.9, m'.10,
      m'.11, m'.12, m'.13⟩, ?_⟩
    · rw [Streamed.call, encoded, Option.bind_some, decoded, Option.map_some]
    · rw [same]
  obtain ⟨mem, c⟩ := a
  cases c with
  | bindBuffer target id =>
    obtain ⟨rfl, rfl⟩ := Prod.mk.inj (Option.some.inj done)
    exact ⟨_, _, _, rfl, rfl, m.bindBuffer target id⟩
  | bufferData target size data usage =>
    obtain ⟨g', filled, same'⟩ := Option.map_eq_some_iff.mp done
    obtain ⟨rfl, rfl⟩ := Prod.mk.inj same'
    exact m.bufferData covered filled
  | bufferSubData target offset size data =>
    obtain ⟨g', filled, same'⟩ := Option.map_eq_some_iff.mp done
    obtain ⟨rfl, rfl⟩ := Prod.mk.inj same'
    exact m.bufferSubData covered filled
  | deleteBuffers n buffers =>
    obtain ⟨rfl, rfl⟩ := Prod.mk.inj (Option.some.inj done)
    obtain ⟨h', decoded, m'⟩ := m.deleteBuffers ((List.range n.toNat).map buffers) covered
    by_cases negative : n < 0
    · have none : n.toNat = 0 := by omega
      refine ⟨t.encoder.setError GL_INVALID_VALUE, [], t.host, ?_, rfl, ?_⟩
      · rw [GL2Encoder.call, GL2Encoder.sGlDeleteBuffers, if_pos negative]
      · rw [none] at m' decoded ⊢
        obtain ⟨rfl, -⟩ := Prod.mk.inj (Option.some.inj decoded)
        have lost : s.lostAfter (.deleteBuffers n buffers) = fun loc => s.lost loc ||
            decide ((s.gl.arrays loc).buffer ≠ 0 ∧
              (s.gl.arrays loc).buffer ∈ (List.range 0).map buffers) := by
          rw [App.lostAfter, none]
        rw [lost]
        exact m'.setError _
    · refine ⟨_, _, h', ?_, decoded, m'⟩
      rw [GL2Encoder.call, GL2Encoder.sGlDeleteBuffers, if_neg negative]
  | vertexAttribPointer index size type normalized stride pointer =>
    obtain ⟨rfl, rfl⟩ := Prod.mk.inj (Option.some.inj done)
    exact ⟨_, _, t.host, rfl, rfl, m.vertexAttribPointer small covered⟩
  | enableVertexAttribArray index =>
    obtain ⟨rfl, rfl⟩ := Prod.mk.inj (Option.some.inj done)
    exact ⟨_, _, t.host, rfl, rfl, m.enableVertexAttribArray small index true⟩
  | disableVertexAttribArray index =>
    obtain ⟨rfl, rfl⟩ := Prod.mk.inj (Option.some.inj done)
    exact ⟨_, _, t.host, rfl, rfl, m.enableVertexAttribArray small index false⟩
  | drawArrays mode first count =>
    obtain ⟨ds, drew, same'⟩ := Option.map_eq_some_iff.mp done
    obtain ⟨rfl, rfl⟩ := Prod.mk.inj same'
    exact m.drawArrays small covered drew
  | drawElements mode count type indices =>
    obtain ⟨ds, drew, same'⟩ := Option.map_eq_some_iff.mp done
    obtain ⟨rfl, rfl⟩ := Prod.mk.inj same'
    exact m.drawElements small covered drew

/-- In every run of calls that the codec covers, the host draws what a GL in the guest would have drawn,
and its stores are what those of that GL would be. -/
theorem vertices_streamed (small : maxIndex ≤ CODEC_MAX_VERTEX_ATTRIBUTES) (found : Nat → VertexAttribState)
    {calls : List (ByteMemory × Call)} {s : App}
    (covered : Along (App.call maxIndex) (App.Covered maxIndex) .initial calls)
    (did : run (App.call maxIndex) .initial calls = some s) :
    ∃ t, run (Streamed.call maxIndex) (.initial found) calls = some t ∧ t.drawn = s.drawn ∧
      t.host.gl.buffers = s.gl.buffers := by
  have start : Follows maxIndex .initial (.initial found) := ⟨Mirrors.initial found, rfl⟩
  obtain ⟨t, ht, m, same⟩ := run_simulated (follows_call small) start covered did
  exact ⟨t, ht, same, m.stores⟩

/-- Three bytes of indices at 4, and vertices of two bytes from 16 on. -/
def sketchMemory : ByteMemory := cells ((List.range 64).map fun k => some (UInt8.ofNat k))

def sketchCalls : List (ByteMemory × Call) :=
  [(sketchMemory, .vertexAttribPointer 0 2 GL_BYTE false 0 16),
    (sketchMemory, .enableVertexAttribArray 0),
    (sketchMemory, .drawElements GL_TRIANGLES 3 GL_UNSIGNED_BYTE 4)]

def sketch : List Drawn :=
  [⟨GL_TRIANGLES, [[(0, ⟨2, GL_BYTE, false, [24, 25]⟩)], [(0, ⟨2, GL_BYTE, false, [26, 27]⟩)],
    [(0, ⟨2, GL_BYTE, false, [28, 29]⟩)]]⟩]

theorem sketch_covered : Along (App.call 16) (App.Covered 16) .initial sketchCalls := by
  have only {loc : Nat} (on : Function.update (fun _ => false) 0 true loc = true) : loc = 0 := by
    by_contra other
    rw [Function.update_of_ne other] at on
    cases on
  refine along_cons rfl (fun _ => by decide) (along_cons rfl trivial (along_cons rfl ?_ trivial))
  intro _ _ _
  refine ⟨⟨⟨0, rfl⟩, ?_, ?_⟩, ?_⟩
  · intro loc on
    rw [only on]
    exact Or.inr (by decide)
  · intro loc on
    rw [only on]
    rfl
  · rw [if_neg (fun both => both.1 rfl)]
    refine ⟨fun none => absurd none (by decide), ?_⟩
    intro ps hps
    obtain rfl : [4, 5, 6] = ps := Option.some.inj hps
    refine ⟨by decide, ?_⟩
    intro least hleast greatest hgreatest between loc on
    obtain rfl := only on
    have low : least = 4 := by
      have := (between 4 (by simp)).1
      simp only [List.mem_cons, List.not_mem_nil, or_false] at hleast
      omega
    have high : greatest = 6 := by
      have := (between 6 (by simp)).2
      simp only [List.mem_cons, List.not_mem_nil, or_false] at hgreatest
      omega
    subst low high
    exact ⟨by decide, by decide, fun _ => by decide, fun _ => by decide, fun none => absurd rfl none,
      fun none => absurd rfl none⟩

/-- The guest's own notes start as anything. -/
theorem sketch_streamed :
    ∃ t, run (Streamed.call 16) (.initial fun _ => ⟨7, -3, 0, 9, 5, 2, 1, true, true⟩) sketchCalls =
      some t ∧ t.drawn = sketch := by
  have did : (run (App.call 16) .initial sketchCalls).map App.drawn = some sketch := by decide
  obtain ⟨s, hs, drawn⟩ := Option.map_eq_some_iff.mp did
  obtain ⟨t, ht, same, -⟩ := vertices_streamed (by decide) (fun _ => ⟨7, -3, 0, 9, 5, 2, 1, true, true⟩)
    sketch_covered hs
  exact ⟨t, ht, same.trans drawn⟩

end Anbox.Gles2
