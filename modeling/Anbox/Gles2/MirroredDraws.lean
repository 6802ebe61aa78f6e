import Anbox.Gles2.SentArrays

namespace Anbox.Gles2

open Anbox.Framework

/-- The app with a GL of its own. `lent` and `lost` change nothing; they tell what the encoder has let
slip: that the host has no index buffer bound, and of which arrays it still takes a deleted buffer for
theirs. -/
structure App where
  gl : GLContext
  lent : Bool
  lost : Nat → Bool
  drawn : List Drawn

/-- The app in the guest, and the host that draws for it. -/
structure Streamed where
  encoder : GL2Encoder
  host : GLESv2Decoder
  drawn : List Drawn

section

variable (maxIndex : Nat)

def GLContext.hasClientArray (g : GLContext) : Bool :=
  (List.range maxIndex).any fun loc => g.enabled loc && decide ((g.arrays loc).buffer = 0)

namespace App

def initial : App := ⟨.initial, false, fun _ => false, []⟩

def lentAfter (s : App) : Call → Bool
  | .bindBuffer target _ => s.lent && decide (target ≠ GL_ELEMENT_ARRAY_BUFFER)
  | .drawElements mode count type _ =>
    if mode ∈ drawModes ∧ type ∈ indexTypes ∧ 0 ≤ count ∧ s.gl.elementArrayBuffer ≠ 0 then
      s.gl.hasClientArray maxIndex
    else s.lent
  | _ => s.lent

def lostAfter (s : App) : Call → Nat → Bool
  | .deleteBuffers n buffers => fun loc =>
    s.lost loc || decide ((s.gl.arrays loc).buffer ≠ 0 ∧
      (s.gl.arrays loc).buffer ∈ (List.range n.toNat).map buffers)
  | .vertexAttribPointer index _ _ _ _ _ => Function.update s.lost index.toNat false
  | _ => s.lost

def call (s : App) (a : ByteMemory × Call) : Option App :=
  (s.gl.call maxIndex a.1 a.2).map fun p =>
    ⟨p.1, s.lentAfter maxIndex a.2, s.lostAfter a.2, s.drawn ++ p.2⟩

/-- There is something to draw: each enabled array has a buffer, not deleted since, or a pointer. -/
structure Drawable (s : App) : Prop where
  some : ∃ loc, s.gl.enabled loc = true
  data : ∀ loc, s.gl.enabled loc = true → (s.gl.arrays loc).buffer ≠ 0 ∨ (s.gl.arrays loc).pointer ≠ 0
  found : ∀ loc, s.gl.enabled loc = true → s.lost loc = false

/-- What the codec relies on, of each call by itself. -/
def Covered (s : App) : ByteMemory × Call → Prop
  | (_, .bindBuffer _ _) => True
  | (_, .bufferData target size _ usage) =>
    usage ∈ usages ∧ size < 2^32 ∧ (target = GL_ELEMENT_ARRAY_BUFFER → s.lent = false)
  | (_, .bufferSubData target offset size _) =>
    (0 ≤ offset → 0 ≤ size → offset + size < 2^32) ∧
      (target = GL_ELEMENT_ARRAY_BUFFER → s.lent = false)
  | (_, .deleteBuffers n buffers) =>
    ∀ id ∈ (List.range n.toNat).map buffers, id ≠ 0 →
      ¬(s.gl.arrayBuffer = id ∧ s.gl.elementArrayBuffer = id)
  | (_, .vertexAttribPointer index size type normalized stride pointer) =>
    index.toNat < maxIndex → (⟨size, type, normalized, stride, 0, pointer⟩ : VertexArray).Valid
  | (_, .enableVertexAttribArray _) => True
  | (_, .disableVertexAttribArray _) => True
  | (mem, .drawArrays mode first count) =>
    mode ∈ drawModes → 0 ≤ count → 0 ≤ first ∧ s.Drawable ∧
      ∀ loc, s.gl.enabled loc = true → Reach mem (s.gl.arrays loc) first count.toNat
  | (mem, .drawElements mode count type indices) =>
    mode ∈ drawModes → type ∈ indexTypes → 0 ≤ count → s.Drawable ∧
      if s.gl.elementArrayBuffer ≠ 0 ∧ s.gl.hasClientArray maxIndex = false then
        (0 ≤ indices ∧ indices < 2^32) ∧
          ∀ loc, s.gl.enabled loc = true → Reach mem (s.gl.arrays loc) 0 count.toNat
      else
        (count = 0 → s.gl.hasClientArray maxIndex = false) ∧
          ∀ ps, s.gl.indices mem count type indices = some ps →
            (∀ p ∈ ps, p < 2^31 - 1) ∧
              ∀ least ∈ ps, ∀ greatest ∈ ps, (∀ p ∈ ps, least ≤ p ∧ p ≤ greatest) →
                ∀ loc, s.gl.enabled loc = true →
                  Reach mem (s.gl.arrays loc) least (greatest - least + 1)

end App

namespace Streamed

def initial (found : Nat → VertexAttribState) : Streamed := ⟨.fresh found, .initial, []⟩

def call (t : Streamed) (a : ByteMemory × Call) : Option Streamed :=
  (t.encoder.call maxIndex a.1 a.2).bind fun p =>
    (t.host.decodeAll maxIndex p.2).map fun q => ⟨p.1, q.1, t.drawn ++ q.2⟩

end Streamed

end

/-- Encoder and host stand as the app's own GL does. Which arrays are enabled the host learns at the next
draw only, and an array's place at none. -/
structure Mirrors (maxIndex : Nat) (s : App) (e : GL2Encoder) (h : GLESv2Decoder) : Prop where
  stores : h.gl.buffers = s.gl.buffers
  copies : ∀ id, (e.mShared id).elim [] BufferData.mFixedBuffer = s.gl.buffers id
  unnamed : s.gl.buffers 0 = []
  array : e.mState.mCurrentArrayVbo = s.gl.arrayBuffer
  index : e.mState.mCurrentIndexVbo = s.gl.elementArrayBuffer
  hostArray : h.gl.arrayBuffer = s.gl.arrayBuffer
  hostIndex : h.gl.elementArrayBuffer = if s.lent then 0 else s.gl.elementArrayBuffer
  enabled : ∀ loc < CODEC_MAX_VERTEX_ATTRIBUTES,
    (e.mState.mStates loc).enabled = if s.gl.enabled loc then 1 else 0
  within : ∀ loc, maxIndex ≤ loc → s.gl.enabled loc = false
  hostWithin : ∀ loc, maxIndex ≤ loc → h.gl.enabled loc = false
  clean : ∀ loc < CODEC_MAX_VERTEX_ATTRIBUTES, (e.mState.mStates loc).enableDirty = false →
    h.gl.enabled loc = s.gl.enabled loc
  valid : ∀ loc, (s.gl.arrays loc).Valid
  notes : ∀ loc < maxIndex, s.lost loc = false →
    s.gl.arrays loc = VertexArray.initial ∨ (e.mState.mStates loc).Notes (s.gl.arrays loc)

namespace Mirrors

variable {maxIndex : Nat} {s : App} {e : GL2Encoder} {h h' : GLESv2Decoder}

theorem initial (found : Nat → VertexAttribState) : Mirrors maxIndex .initial (.fresh found) .initial where
  stores := rfl
  copies := fun _ => rfl
  unnamed := rfl
  array := rfl
  index := rfl
  hostArray := rfl
  hostIndex := rfl
  enabled := fun _ _ => rfl
  within := fun _ _ => rfl
  hostWithin := fun _ _ => rfl
  clean := fun _ _ _ => rfl
  valid := fun _ => VertexArray.initial_valid
  notes := fun _ _ _ => Or.inl rfl

/-- Of the arrays that a draw reads the encoder knows all. -/
theorem knows (m : Mirrors maxIndex s e h) (d : s.Drawable) {loc : Nat}
    (inside : loc < CODEC_MAX_VERTEX_ATTRIBUTES) : Knows maxIndex e.mState s.gl loc := by
  have within (on : s.gl.enabled loc = true) : loc < maxIndex := by
    by_contra beyond
    rw [m.within loc (by omega)] at on
    cases on
  refine ⟨m.enabled loc inside, ?_, m.valid loc, within⟩
  intro on
  cases m.notes loc (within on) (d.found loc on) with
  | inl initial =>
    have data := d.data loc on
    rw [initial] at data
    exact absurd data (by decide)
  | inr notes => exact notes

theorem inside (m : Mirrors maxIndex s e h) (small : maxIndex ≤ CODEC_MAX_VERTEX_ATTRIBUTES)
    {loc : Nat} (on : s.gl.enabled loc = true) :
    loc < CODEC_MAX_VERTEX_ATTRIBUTES := by
  by_contra beyond
  rw [m.within loc (by omega)] at on
  cases on

/-- The encoder's loops over the locations find what GL's state has. -/
theorem anyEnabled_iff (m : Mirrors maxIndex s e h) (small : maxIndex ≤ CODEC_MAX_VERTEX_ATTRIBUTES)
    (p : VertexAttribState → Bool) :
    e.mState.anyEnabled p = true ↔
      ∃ loc, s.gl.enabled loc = true ∧ p (e.mState.mStates loc) = true := by
  simp only [GLClientState.anyEnabled, List.any_eq_true, List.mem_range, Bool.and_eq_true,
    decide_eq_true_eq]
  constructor
  · rintro ⟨loc, inside, on, hp⟩
    refine ⟨loc, ?_, hp⟩
    by_contra off
    rw [m.enabled loc inside, if_neg off] at on
    exact on rfl
  · rintro ⟨loc, on, hp⟩
    refine ⟨loc, m.inside small on, ?_, hp⟩
    rw [m.enabled loc (m.inside small on), on]
    decide

theorem lacksData_eq (m : Mirrors maxIndex s e h) (small : maxIndex ≤ CODEC_MAX_VERTEX_ATTRIBUTES)
    (d : s.Drawable) :
    e.mState.anyEnabled GL2Encoder.lacksData = false := by
  rw [← Bool.not_eq_true, m.anyEnabled_iff small]
  rintro ⟨loc, on, lacks⟩
  have notes := (m.knows d (m.inside small on)).notes on
  rw [GL2Encoder.lacksData, decide_eq_true_eq, notes.bufferObject, notes.data] at lacks
  rcases d.data loc on with buffer | pointer
  · exact buffer lacks.1
  · exact pointer lacks.2

theorem someEnabled_eq (m : Mirrors maxIndex s e h) (small : maxIndex ≤ CODEC_MAX_VERTEX_ATTRIBUTES)
    (d : s.Drawable) :
    e.mState.anyEnabled (fun _ => true) = true := by
  obtain ⟨loc, on⟩ := d.some
  exact (m.anyEnabled_iff small _).mpr ⟨loc, on, rfl⟩

theorem hasImmediate_eq (m : Mirrors maxIndex s e h) (small : maxIndex ≤ CODEC_MAX_VERTEX_ATTRIBUTES)
    (d : s.Drawable) :
    (e.mState.anyEnabled fun state => decide (state.bufferObject = 0)) = s.gl.hasClientArray maxIndex := by
  rw [Bool.eq_iff_iff, m.anyEnabled_iff small]
  simp only [GLContext.hasClientArray, List.any_eq_true, List.mem_range, Bool.and_eq_true,
    decide_eq_true_eq]
  constructor
  · rintro ⟨loc, on, client⟩
    have k := m.knows d (m.inside small on)
    exact ⟨loc, k.within on, on, (k.notes on).bufferObject ▸ client⟩
  · rintro ⟨loc, -, on, client⟩
    have k := m.knows d (m.inside small on)
    exact ⟨loc, on, (k.notes on).bufferObject ▸ client⟩

/-- The arrays are sent; all else stays as it is. -/
theorem send (m : Mirrors maxIndex s e h) (d : s.Drawable) (mem : ByteMemory) (first : Int) (count : Nat)
    (client : ∀ loc, s.gl.enabled loc = true → (s.gl.arrays loc).buffer = 0 →
      Reach mem (s.gl.arrays loc) first count) :
    ∃ e' cs h', e.sendVertexAttributes mem first count = some (e', cs) ∧
      h.decodeAll maxIndex cs = some (h', []) ∧ Mirrors maxIndex s e' h' ∧
      Served mem s.gl first count CODEC_MAX_VERTEX_ATTRIBUTES h h' ∧ e'.mShared = e.mShared := by
  obtain ⟨css, h', sent, decoded, served⟩ :=
    send_locations (le_refl _) (fun i hi => m.knows d hi) (m.array.trans m.hostArray.symm) m.stores
      m.clean m.hostWithin client
  refine ⟨{ e with mState := e.mState.cleared }, css.flatten, h', ?_, decoded, ?_, served, rfl⟩
  · rw [GL2Encoder.sendVertexAttributes, sent, Option.map_some]
  · refine ⟨served.buffers.trans m.stores, m.copies, m.unnamed, m.array, m.index,
      served.arrayBuffer.trans m.hostArray, served.elementArrayBuffer.trans m.hostIndex, m.enabled,
      m.within,      ?_, fun loc hl _ => served.enabled loc hl, m.valid, ?_⟩
    · intro loc le
      by_cases inside : loc < CODEC_MAX_VERTEX_ATTRIBUTES
      · rw [served.enabled loc inside, m.within loc le]
      · rw [served.later loc (by omega), m.hostWithin loc le]
    · intro loc hl found
      cases m.notes loc hl found with
      | inl initial => exact Or.inl initial
      | inr notes => exact Or.inr ⟨notes.1, notes.2, notes.3, notes.4, notes.5, notes.6, notes.7⟩

/-- A draw of the vertices sent draws what the app's own would. -/
theorem draw_eq (m : Mirrors maxIndex s e h') (small : maxIndex ≤ CODEC_MAX_VERTEX_ATTRIBUTES)
    {mem : ByteMemory} {first : Int} {count : Nat}
    (served : Served mem s.gl first count CODEC_MAX_VERTEX_ATTRIBUTES h h')
    (reach : ∀ loc, s.gl.enabled loc = true → Reach mem (s.gl.arrays loc) first count) (mode : GLenum)
    (vs : List Nat)
    (hv : ∀ v ∈ vs, ∀ loc, s.gl.enabled loc = true → (s.gl.arrays loc).buffer = 0 → v < count) :
    h'.gl.draw maxIndex h'.client mode (vs.map fun (v : Nat) => (v : Int)) =
      s.gl.draw maxIndex (fun _ => mem) mode (vs.map fun v => first + (v : Nat)) := by
  have enabled : h'.gl.enabled = s.gl.enabled := by
    funext loc
    by_cases inside : loc < CODEC_MAX_VERTEX_ATTRIBUTES
    · exact served.enabled loc inside
    · rw [m.hostWithin loc (by omega), m.within loc (by omega)]
  have vertex (v : Nat) (there : v ∈ vs) :
      h'.gl.vertex maxIndex h'.client (v : Nat) =
        s.gl.vertex maxIndex (fun _ => mem) (first + (v : Nat)) := by
    rw [GLContext.vertex, GLContext.vertex, enabled]
    apply mapM_congr
    intro loc hl
    have on : s.gl.enabled loc = true := (List.mem_filter.mp hl).2
    exact served.same loc (m.inside small on) on (reach loc on) v (hv v there loc on)
  have all : vs.mapM (h'.gl.vertex maxIndex h'.client ∘ fun (v : Nat) => (v : Int)) =
      vs.mapM (s.gl.vertex maxIndex (fun _ => mem) ∘ fun (v : Nat) => first + (v : Int)) :=
    mapM_congr vertex
  rw [GLContext.draw, GLContext.draw]
  simp only [List.map_eq_nil_iff, List.mapM_map, all]

theorem setError (m : Mirrors maxIndex s e h) (error : GLenum) : Mirrors maxIndex s (e.setError error) h :=
  ⟨m.1, m.2, m.3, m.4, m.5, m.6, m.7, m.8, m.9, m.10, m.11, m.12, m.13⟩

theorem drawArrays (m : Mirrors maxIndex s e h) (small : maxIndex ≤ CODEC_MAX_VERTEX_ATTRIBUTES)
    {mem : ByteMemory} {mode : GLenum} {first count : Int} {drawn : List Drawn}
    (covered : s.Covered maxIndex (mem, .drawArrays mode first count))
    (drew : s.gl.drawArrays maxIndex (fun _ => mem) mode first count = some drawn) :
    ∃ e' cs h', e.sGlDrawArrays mem mode first count = some (e', cs) ∧
      h.decodeAll maxIndex cs = some (h', drawn) ∧ Mirrors maxIndex s e' h' := by
  by_cases valid : mode ∈ drawModes
  · have mode_valid : GL2Encoder.isValidDrawMode mode := valid
    by_cases negative : count < 0
    · rw [GLContext.drawArrays, if_neg (by omega)] at drew
      obtain rfl := Option.some.inj drew
      refine ⟨e.setError GL_INVALID_VALUE, [], h, ?_, rfl, m.setError _⟩
      rw [GL2Encoder.sGlDrawArrays, if_neg (not_not.mpr mode_valid), if_pos negative]
    · obtain ⟨nonneg, drawable, reach⟩ := covered valid (by omega)
      rw [GLContext.drawArrays, if_pos ⟨valid, nonneg, by omega⟩] at drew
      have count_eq : ((count.toNat : Nat) : Int) = count := by omega
      obtain ⟨e', cs, h', sent, decoded, m', served, -⟩ :=
        m.send drawable mem first count.toNat (fun loc on _ => reach loc on)
      rw [count_eq] at sent
      refine ⟨e', cs ++ [.glDrawArrays mode 0 count], h', ?_, ?_, m'⟩
      · rw [GL2Encoder.sGlDrawArrays, if_neg (not_not.mpr mode_valid), if_neg negative,
          m.lacksData_eq small drawable, if_neg Bool.false_ne_true, m.someEnabled_eq small drawable,
          if_neg (not_not.mpr rfl), sent]
        rfl
      · have same := m'.draw_eq small served reach mode (List.range count.toNat)
          (fun v hv _ _ _ => List.mem_range.mp hv)
        have host : h'.gl.drawArrays maxIndex h'.client mode 0 count = some drawn := by
          rw [GLContext.drawArrays, if_pos ⟨valid, le_refl 0, by omega⟩, ← drew, ← same]
          simp only [Int.zero_add]
        rw [GLESv2Decoder.decodeAll_append decoded, GLESv2Decoder.decodeAll, GLESv2Decoder.decode, host]
        simp [GLESv2Decoder.decodeAll]
  · rw [GLContext.drawArrays, if_neg (fun all => valid all.1)] at drew
    obtain rfl := Option.some.inj drew
    refine ⟨e.setError GL_INVALID_ENUM, [], h, ?_, rfl, m.setError _⟩
    rw [GL2Encoder.sGlDrawArrays, if_pos (show ¬GL2Encoder.isValidDrawMode mode from valid)]

/-- Without arrays in client memory, each that is enabled has a buffer. -/
theorem buffered (m : Mirrors maxIndex s e h) (small : maxIndex ≤ CODEC_MAX_VERTEX_ATTRIBUTES)
    (d : s.Drawable) (none : s.gl.hasClientArray maxIndex = false) {loc : Nat}
    (on : s.gl.enabled loc = true) : (s.gl.arrays loc).buffer ≠ 0 := by
  intro client
  have some : s.gl.hasClientArray maxIndex = true := by
    simp only [GLContext.hasClientArray, List.any_eq_true, List.mem_range, Bool.and_eq_true,
      decide_eq_true_eq]
    exact ⟨loc, (m.knows d (m.inside small on)).within on, on, client⟩
  rw [none] at some
  cases some

/-- What the host draws, once the arrays are there and it finds its indices in the packet. -/
theorem decode_indices {cs : List Command} {mode : GLenum} {count : Int} {type : GLenum} {data : List UInt8}
    {qs : List Nat} {drawn : List Drawn} (valid : mode ∈ drawModes ∧ type ∈ indexTypes ∧ 0 ≤ count)
    (decoded : h.decodeAll maxIndex cs = some (h', [])) (unbound : h'.gl.elementArrayBuffer = 0)
    (found : numbers (cells (data.map some)) 0 (indexSize type) count.toNat = some qs)
    (same : h'.gl.draw maxIndex h'.client mode (qs.map fun (q : Nat) => (q : Int)) = some drawn) :
    h.decodeAll maxIndex (cs ++ [.glDrawElementsData mode count type data]) = some (h', drawn) := by
  have host : h'.gl.drawElements maxIndex h'.client (cells (data.map some)) mode count type 0 =
      some drawn := by
    rw [GLContext.drawElements, if_pos valid, GLContext.indices, if_pos unbound, found, Option.bind_some,
      same]
  rw [GLESv2Decoder.decodeAll_append decoded, GLESv2Decoder.decodeAll, GLESv2Decoder.decode, host]
  simp [GLESv2Decoder.decodeAll]

/-- With no indices to send, element −1 stands for the range of the arrays. -/
theorem sendIndices_none (m : Mirrors maxIndex s e h) (small : maxIndex ≤ CODEC_MAX_VERTEX_ATTRIBUTES)
    (d : s.Drawable) {mem source : ByteMemory} {mode : GLenum} {type : GLenum} {offset : Int}
    (mode_valid : mode ∈ drawModes) (type_valid : type ∈ indexTypes)
    (none : s.gl.hasClientArray maxIndex = false) (unbound : h.gl.elementArrayBuffer = 0) :
    ∃ e' cs h', e.sendIndices mem source mode 0 type offset = some (e', cs) ∧
      h.decodeAll maxIndex cs = some (h', []) ∧ Mirrors maxIndex s e' h' := by
  obtain ⟨e', cs, h', sent, decoded, m', served, -⟩ :=
    m.send d mem (-1) 1 fun loc on client =>
      absurd client (m.buffered small d none on)
  have one : int32 (-1 - -1 + 1) = ((1 : Nat) : Int) := by decide
  refine ⟨e', cs ++ [.glDrawElementsData mode 0 type []], h', ?_,
    decode_indices ⟨mode_valid, type_valid, le_refl 0⟩ decoded (served.elementArrayBuffer.trans unbound)
      (rfl : numbers (cells []) 0 (indexSize type) 0 = some []) rfl, m'⟩
  rw [GL2Encoder.sendIndices]
  change (e.sendVertexAttributes mem (-1) (int32 (-1 - -1 + 1))).bind _ = _
  rw [one, sent]
  rfl

/-- Indices that come with the arrays, cut to their range, draw the vertices they named before. -/
theorem sendIndices_some (m : Mirrors maxIndex s e h) (small : maxIndex ≤ CODEC_MAX_VERTEX_ATTRIBUTES)
    (d : s.Drawable) {mem source : ByteMemory} {mode : GLenum} {count : Int} {type : GLenum} {offset : Int}
    {p : Nat} {rest : List Nat} {drawn : List Drawn} (mode_valid : mode ∈ drawModes)
    (type_valid : type ∈ indexTypes) (nonneg : 0 ≤ count)
    (read : numbers source offset (indexSize type) count.toNat = some (p :: rest))
    (bound : ∀ q ∈ p :: rest, q < 2^31 - 1)
    (reach : ∀ least ∈ p :: rest, ∀ greatest ∈ p :: rest, (∀ q ∈ p :: rest, least ≤ q ∧ q ≤ greatest) →
      ∀ loc, s.gl.enabled loc = true → Reach mem (s.gl.arrays loc) least (greatest - least + 1))
    (unbound : h.gl.elementArrayBuffer = 0)
    (drew : s.gl.draw maxIndex (fun _ => mem) mode ((p :: rest).map fun (q : Nat) => (q : Int)) =
      some drawn) :
    ∃ e' cs h', e.sendIndices mem source mode count type offset = some (e', cs) ∧
      h.decodeAll maxIndex cs = some (h', drawn) ∧ Mirrors maxIndex s e' h' := by
  have width := glSizeof_index type_valid
  obtain ⟨least, greatest, range, hleast, hgreatest, between⟩ :=
    minmax_range (indexSize type) fun q hq => Nat.lt_of_lt_of_le (bound q hq) (by decide : 2^31 - 1 ≤ 2^31)
  have least_small := bound least hleast
  have greatest_small := bound greatest hgreatest
  have ordered := (between greatest hgreatest).1
  have reached := reach least hleast greatest hgreatest between
  obtain ⟨e', cs, h', sent, decoded, m', served, -⟩ := m.send d mem _ _ fun loc on _ => reached loc on
  have count_eq : int32 ((greatest : Int) - least + 1) = ((greatest - least + 1 : Nat) : Int) := by
    rw [int32_eq (by omega) (by omega)]
    omega
  have drew' : h'.gl.draw maxIndex h'.client mode
      (((p :: rest).map (· - least)).map fun (q : Nat) => (q : Int)) = some drawn := by
    have inside : ∀ q ∈ (p :: rest).map (· - least), q < greatest - least + 1 := by
      intro q hq
      obtain ⟨r, hr, rfl⟩ := List.mem_map.mp hq
      have := between r hr
      omega
    have back : ((p :: rest).map (· - least)).map (fun (q : Nat) => (least : Int) + (q : Nat)) =
        (p :: rest).map fun (q : Nat) => (q : Int) := by
      rw [List.map_map]
      apply List.map_congr_left
      intro q hq
      have := (between q hq).1
      rw [Function.comp_apply]
      omega
    rw [m'.draw_eq small served reached mode _ fun q hq _ _ _ => inside q hq, back, drew]
  have unbound' := served.elementArrayBuffer.trans unbound
  by_cases zero : least = 0
  · obtain ⟨bytes, copy⟩ := isSome_load_of_numbers read
    have found : numbers (cells (bytes.map some)) 0 (indexSize type) count.toNat =
        some ((p :: rest).map (· - least)) := by
      rw [numbers_copy copy, read, zero]
      simp
    refine ⟨e', cs ++ [.glDrawElementsData mode count type bytes], h', ?_,
      decode_indices ⟨mode_valid, type_valid, nonneg⟩ decoded unbound' found drew', m'⟩
    rw [GL2Encoder.sendIndices, width, read, Option.bind_some, range]
    dsimp only
    rw [count_eq, sent, if_neg (by omega), copy]
    rfl
  · have found : numbers
        (cells ((((p :: rest).map (· - least)).flatMap (little (indexSize type))).map some)) 0
        (indexSize type) count.toNat = some ((p :: rest).map (· - least)) := by
      have width_small : ∀ q ∈ (p :: rest).map (· - least), q < 256^indexSize type := by
        intro q hq
        obtain ⟨r, hr, rfl⟩ := List.mem_map.mp hq
        exact Nat.lt_of_le_of_lt (Nat.sub_le r least) (lt_of_numbers read r hr)
      have packed := numbers_little width_small
      rwa [List.length_map, length_of_numbers read] at packed
    have shifted := shiftIndices_eq (indexSize type) (fun q hq => (between q hq).1) (lt_of_numbers read)
      (by omega)
    refine ⟨e', cs ++ [.glDrawElementsData mode count type _], h', ?_,
      decode_indices ⟨mode_valid, type_valid, nonneg⟩ decoded unbound' found drew', m'⟩
    rw [GL2Encoder.sendIndices, width, read, Option.bind_some, range]
    dsimp only
    rw [count_eq, sent, if_pos (by omega), shifted]
    rfl

theorem sendIndices (m : Mirrors maxIndex s e h) (small : maxIndex ≤ CODEC_MAX_VERTEX_ATTRIBUTES)
    (d : s.Drawable) {mem source : ByteMemory} {mode : GLenum} {count : Int} {type : GLenum} {offset : Int}
    {ps : List Nat} {drawn : List Drawn} (mode_valid : mode ∈ drawModes) (type_valid : type ∈ indexTypes)
    (nonneg : 0 ≤ count) (read : numbers source offset (indexSize type) count.toNat = some ps)
    (none : count = 0 → s.gl.hasClientArray maxIndex = false) (bound : ∀ p ∈ ps, p < 2^31 - 1)
    (reach : ∀ least ∈ ps, ∀ greatest ∈ ps, (∀ p ∈ ps, least ≤ p ∧ p ≤ greatest) →
      ∀ loc, s.gl.enabled loc = true → Reach mem (s.gl.arrays loc) least (greatest - least + 1))
    (unbound : h.gl.elementArrayBuffer = 0)
    (drew : s.gl.draw maxIndex (fun _ => mem) mode (ps.map fun (p : Nat) => (p : Int)) = some drawn) :
    ∃ e' cs h', e.sendIndices mem source mode count type offset = some (e', cs) ∧
      h.decodeAll maxIndex cs = some (h', drawn) ∧ Mirrors maxIndex s e' h' := by
  cases ps with
  | nil =>
    obtain rfl : drawn = [] := (Option.some.inj drew).symm
    have length := length_of_numbers read
    rw [List.length_nil] at length
    obtain rfl : count = 0 := by omega
    exact m.sendIndices_none small d mode_valid type_valid (none rfl) unbound
  | cons p rest =>
    exact m.sendIndices_some small d mode_valid type_valid nonneg read bound reach unbound drew

/-- All the arrays are in buffers: the host draws with the index buffer it has. -/
theorem drawOffsets (m : Mirrors maxIndex s e h) (small : maxIndex ≤ CODEC_MAX_VERTEX_ATTRIBUTES)
    (d : s.Drawable) {mem : ByteMemory} {mode : GLenum} {count : Int} {type : GLenum} {indices : Int}
    {drawn : List Drawn} (valid : mode ∈ drawModes ∧ type ∈ indexTypes ∧ 0 ≤ count)
    (index : s.gl.elementArrayBuffer ≠ 0) (none : s.gl.hasClientArray maxIndex = false)
    (offset : 0 ≤ indices ∧ indices < 2^32)
    (reach : ∀ loc, s.gl.enabled loc = true → Reach mem (s.gl.arrays loc) 0 count.toNat)
    (drew : s.gl.drawElements maxIndex (fun _ => mem) mem mode count type indices = some drawn) :
    ∃ e' cs h', e.sendVertexAttributes mem 0 count = some (e', cs) ∧
      h.decodeAll maxIndex (cs ++ [.glBindBuffer GL_ELEMENT_ARRAY_BUFFER e'.mState.mCurrentIndexVbo,
        .glDrawElementsOffset mode count type (.ofNat (uint32 indices))]) = some (h', drawn) ∧
      Mirrors maxIndex { s with lent := false } e' h' := by
  have count_eq : ((count.toNat : Nat) : Int) = count := by omega
  obtain ⟨e', cs, h', sent, decoded, m', served, -⟩ :=
    m.send d mem 0 count.toNat fun loc on _ => reach loc on
  rw [count_eq] at sent
  rw [GLContext.drawElements, if_pos valid] at drew
  obtain ⟨ps, hps, drew⟩ := Option.bind_eq_some_iff.mp drew
  have place : ((UInt32.ofNat (uint32 indices)).toNat : Int) = indices := by
    have same := uint32_eq offset.1 offset.2
    rw [UInt32.toNat_ofNat', Nat.mod_eq_of_lt (by omega), same]
  let h₂ : GLESv2Decoder := { h' with gl := { h'.gl with elementArrayBuffer := s.gl.elementArrayBuffer } }
  have host : h₂.gl.drawElements maxIndex h₂.client (fun _ => .none) mode count type indices =
      some drawn := by
    have found : h₂.gl.indices (fun _ => .none) count type indices = some ps := by
      rw [GLContext.indices, if_neg index] at hps
      rw [GLContext.indices, if_neg (show h₂.gl.elementArrayBuffer ≠ 0 from index), ← hps]
      exact congrArg (fun b =>
        numbers (cells (b s.gl.elementArrayBuffer)) indices (indexSize type) count.toNat) m'.stores
    have same : h₂.gl.draw maxIndex h₂.client mode (ps.map fun (p : Nat) => (p : Int)) = some drawn := by
      have here := m'.draw_eq small served reach mode ps fun v _ loc on client =>
        absurd client (m.buffered small d none on)
      simp only [Int.zero_add] at here
      exact here.trans drew
    rw [GLContext.drawElements, if_pos valid, found, Option.bind_some, same]
  refine ⟨e', cs, h₂, sent, ?_, ?_⟩
  · have bind : h'.decode maxIndex (.glBindBuffer GL_ELEMENT_ARRAY_BUFFER e'.mState.mCurrentIndexVbo) =
        some (h₂, []) := by
      rw [m'.index]
      rfl
    have draw : h₂.decode maxIndex (.glDrawElementsOffset mode count type (.ofNat (uint32 indices))) =
        some (h₂, drawn) := by
      rw [GLESv2Decoder.decode, place, host, Option.map_some]
    rw [GLESv2Decoder.decodeAll_append decoded, GLESv2Decoder.decodeAll, bind, Option.bind_some,
      GLESv2Decoder.decodeAll, draw]
    simp [GLESv2Decoder.decodeAll]
  · exact ⟨m'.1, m'.2, m'.3, m'.4, m'.5, m'.6, rfl, m'.8, m'.9, m'.10, m'.11, m'.12, m'.13⟩

theorem drawElements (m : Mirrors maxIndex s e h) (small : maxIndex ≤ CODEC_MAX_VERTEX_ATTRIBUTES)
    {mem : ByteMemory} {mode : GLenum} {count : Int} {type : GLenum} {indices : Int} {drawn : List Drawn}
    (covered : s.Covered maxIndex (mem, .drawElements mode count type indices))
    (drew : s.gl.drawElements maxIndex (fun _ => mem) mem mode count type indices = some drawn) :
    ∃ e' cs h', e.sGlDrawElements mem mode count type indices = some (e', cs) ∧
      h.decodeAll maxIndex cs = some (h', drawn) ∧
      Mirrors maxIndex { s with lent := s.lentAfter maxIndex (.drawElements mode count type indices) }
        e' h' := by
  by_cases valid : mode ∈ drawModes ∧ type ∈ indexTypes ∧ 0 ≤ count
  · obtain ⟨mode_valid, type_valid, nonneg⟩ := valid
    obtain ⟨d, rest⟩ := covered mode_valid type_valid nonneg
    have shape : GL2Encoder.isValidDrawMode mode ∧ GL2Encoder.isValidDrawType type :=
      ⟨mode_valid, (isValidDrawType_iff type).mpr type_valid⟩
    have start := e.sGlDrawElements_checked shape (Int.not_lt.mpr nonneg) (m.lacksData_eq small d)
      (m.someEnabled_eq small d) mem indices
    rw [m.hasImmediate_eq small d] at start
    by_cases index : s.gl.elementArrayBuffer = 0
    · rw [if_neg (fun both => both.1 index)] at rest
      have same : s.lentAfter maxIndex (.drawElements mode count type indices) = s.lent :=
        if_neg fun all => all.2.2.2 index
      have unbound : h.gl.elementArrayBuffer = 0 := by
        rw [m.hostIndex, index, ite_self]
      rw [GLContext.drawElements, if_pos ⟨mode_valid, type_valid, nonneg⟩] at drew
      obtain ⟨ps, hps, drew⟩ := Option.bind_eq_some_iff.mp drew
      obtain ⟨bound, reach⟩ := rest.2 ps hps
      rw [GLContext.indices, if_pos index] at hps
      obtain ⟨e', cs, h', sent, decoded, m'⟩ :=
        m.sendIndices small d mode_valid type_valid nonneg hps rest.1 bound reach unbound drew
      refine ⟨e', cs, h', ?_, decoded, same ▸ m'⟩
      rw [start, if_pos (m.index.trans index), sent]
    · have lent : s.lentAfter maxIndex (.drawElements mode count type indices) =
          s.gl.hasClientArray maxIndex :=
        if_pos ⟨mode_valid, type_valid, nonneg, index⟩
      have vbo : e.mState.mCurrentIndexVbo ≠ 0 := m.index ▸ index
      cases client : s.gl.hasClientArray maxIndex with
      | false =>
        rw [if_pos ⟨index, client⟩] at rest
        obtain ⟨e', cs, h', sent, decoded, m'⟩ :=
          m.drawOffsets small d ⟨mode_valid, type_valid, nonneg⟩ index client rest.1 rest.2 drew
        refine ⟨e', _, h', ?_, decoded, ?_⟩
        · rw [start, if_neg vbo, client, if_pos Bool.false_ne_true, sent, Option.map_some]
        · rw [lent, client]
          exact m'
      | true =>
        rw [if_neg (fun both => by rw [client] at both; cases both.2)] at rest
        rw [GLContext.drawElements, if_pos ⟨mode_valid, type_valid, nonneg⟩] at drew
        obtain ⟨ps, hps, drew⟩ := Option.bind_eq_some_iff.mp drew
        obtain ⟨bound, reach⟩ := rest.2 ps hps
        rw [GLContext.indices, if_neg index] at hps
        have some : 0 < count.toNat := by
          by_contra none
          have := rest.1 (by omega)
          rw [client] at this
          cases this
        -- the guest's copy of the index buffer is the store itself
        have copy : ∃ buf, e.mShared s.gl.elementArrayBuffer = Option.some buf ∧
            buf.mFixedBuffer = s.gl.buffers s.gl.elementArrayBuffer := by
          have same := m.copies s.gl.elementArrayBuffer
          cases found : e.mShared s.gl.elementArrayBuffer with
          | none =>
            have size : 0 < indexSize type := by
              rw [indexSize]
              split_ifs <;> decide
            rw [found, Option.elim_none] at same
            rw [← same, numbers_nothing size some] at hps
            cases hps
          | some buf =>
            rw [found, Option.elim_some] at same
            exact ⟨buf, rfl, same⟩
        obtain ⟨buf, found, cells_eq⟩ := copy
        let h₁ : GLESv2Decoder := { h with gl := { h.gl with elementArrayBuffer := 0 } }
        have m₁ : Mirrors maxIndex { s with lent := true } e h₁ :=
          ⟨m.1, m.2, m.3, m.4, m.5, m.6, rfl, m.8, m.9, m.10, m.11, m.12, m.13⟩
        have d₁ : App.Drawable { s with lent := true } := ⟨d.1, d.2, d.3⟩
        obtain ⟨e', cs, h', sent, decoded, m'⟩ := m₁.sendIndices small d₁ mode_valid type_valid nonneg
          (cells_eq ▸ hps) rest.1 bound reach rfl drew
        refine ⟨e', .glBindBuffer GL_ELEMENT_ARRAY_BUFFER 0 :: cs, h', ?_, ?_, ?_⟩
        · rw [start, if_neg vbo, client, if_neg (not_not.mpr rfl), m.index, found, Option.bind_some, sent,
            Option.map_some]
        · have bind : h.decode maxIndex (.glBindBuffer GL_ELEMENT_ARRAY_BUFFER 0) =
              Option.some (h₁, []) := rfl
          rw [GLESv2Decoder.decodeAll, bind, Option.bind_some, decoded]
          rfl
        · rw [lent, client]
          exact m'
  · rw [GLContext.drawElements, if_neg valid] at drew
    obtain rfl := Option.some.inj drew
    have same : s.lentAfter maxIndex (.drawElements mode count type indices) = s.lent :=
      if_neg fun all => valid ⟨all.1, all.2.1, all.2.2.1⟩
    by_cases shape : GL2Encoder.isValidDrawMode mode ∧ GL2Encoder.isValidDrawType type
    · have negative : count < 0 := by
        by_contra nonneg
        exact valid ⟨shape.1, (isValidDrawType_iff type).mp shape.2, by omega⟩
      refine ⟨e.setError GL_INVALID_VALUE, [], h, ?_, rfl, same ▸ m.setError _⟩
      rw [GL2Encoder.sGlDrawElements]
      dsimp only
      rw [if_neg (not_not.mpr shape), if_pos negative]
    · refine ⟨e.setError GL_INVALID_ENUM, [], h, ?_, rfl, same ▸ m.setError _⟩
      rw [GL2Encoder.sGlDrawElements]
      dsimp only
      rw [if_pos shape]

end Mirrors

end Anbox.Gles2
