import Anbox.Gles2.GLESv2Decoder
import Anbox.Gles2.PackedArrays

namespace Anbox.Gles2

open Anbox.Framework

/-- What the encoder notes of an array is what GL was told of it. -/
structure VertexAttribState.Notes (st : VertexAttribState) (a : VertexArray) : Prop where
  size : st.size = a.size
  type : st.type = a.type
  normalized : st.normalized = a.normalized
  stride : st.stride = a.stride
  data : st.data = a.pointer
  bufferObject : st.bufferObject = a.buffer
  elementSize : st.elementSize = a.width

namespace VertexArray

/-- The array as the host has it when its elements are sent along. -/
def packed (a : VertexArray) : VertexArray := ⟨a.size, a.type, a.normalized, 0, 0, 0⟩

/-- The array as the host has it when its buffer is over there. -/
def shifted (a : VertexArray) (offset : Int) : VertexArray := { a with pointer := offset }

variable {a : VertexArray}

theorem Valid.packed (h : a.Valid) : a.packed.Valid :=
  ⟨h.size_pos, h.size_le, le_refl 0, (by decide : (0 : Int) < 2^31), h.type⟩

theorem Valid.shifted (h : a.Valid) (offset : Int) : (a.shifted offset).Valid :=
  ⟨h.size_pos, h.size_le, h.stride_nonneg, h.stride_lt, h.type⟩

end VertexArray

namespace GLESv2Decoder

variable {maxIndex : Nat} {h h' : GLESv2Decoder}

theorem decodeAll_append {cs ds : List Command} {drawn : List Drawn}
    (front : decodeAll maxIndex h cs = some (h', drawn)) :
    decodeAll maxIndex h (cs ++ ds) = (decodeAll maxIndex h' ds).map fun q => (q.1, drawn ++ q.2) := by
  induction cs generalizing h drawn with
  | nil =>
    obtain ⟨rfl, rfl⟩ := Prod.mk.inj (Option.some.inj front)
    rw [List.nil_append]
    simp
  | cons c cs ih =>
    obtain ⟨p, hp, later⟩ := Option.bind_eq_some_iff.mp front
    obtain ⟨q, hq, same⟩ := Option.map_eq_some_iff.mp later
    obtain ⟨rfl, rfl⟩ := Prod.mk.inj same
    rw [List.cons_append, decodeAll, hp, Option.bind_some, ih hq, Option.map_map]
    apply congrArg (fun f => Option.map f (decodeAll maxIndex q.1 ds))
    funext r
    rw [Function.comp_apply, List.append_assoc]

/-- Of the arrays only that of location `i` is another. -/
structure Touches (i : Nat) (h h' : GLESv2Decoder) : Prop where
  buffers : h'.gl.buffers = h.gl.buffers
  arrayBuffer : h'.gl.arrayBuffer = h.gl.arrayBuffer
  elementArrayBuffer : h'.gl.elementArrayBuffer = h.gl.elementArrayBuffer
  enabled : ∀ loc, loc ≠ i → h'.gl.enabled loc = h.gl.enabled loc
  arrays : ∀ loc, loc ≠ i → h'.gl.arrays loc = h.gl.arrays loc
  data : ∀ loc, loc ≠ i → h'.mPointerData loc = h.mPointerData loc

theorem Touches.refl (i : Nat) (h : GLESv2Decoder) : Touches i h h :=
  ⟨rfl, rfl, rfl, fun _ _ => rfl, fun _ _ => rfl, fun _ _ => rfl⟩

theorem Touches.vertexAttribute {i loc : Nat} (t : Touches i h h') (other : loc ≠ i) (v : Int) :
    h'.gl.vertexAttribute h'.client loc v = h.gl.vertexAttribute h.client loc v := by
  have client : h'.client loc = h.client loc := by rw [GLESv2Decoder.client, t.data loc other]; rfl
  rw [GLContext.vertexAttribute, GLContext.element, GLContext.arrayMemory, t.arrays loc other,
    t.buffers, client]
  rfl

/-- Location `i` enabled, with this array and this data stored for it. -/
def withArray (h : GLESv2Decoder) (i : Nat) (a : VertexArray) (data : List UInt8) : GLESv2Decoder where
  gl := { h.gl with
    enabled := Function.update h.gl.enabled i true
    arrays := Function.update h.gl.arrays i a }
  mPointerData := Function.update h.mPointerData i data

theorem touches_withArray (h : GLESv2Decoder) (i : Nat) (a : VertexArray) (data : List UInt8) :
    Touches i h (h.withArray i a data) := by
  refine ⟨rfl, rfl, rfl, ?_, ?_, ?_⟩
  · intro loc other
    exact Function.update_of_ne other true h.gl.enabled
  · intro loc other
    exact Function.update_of_ne other a h.gl.arrays
  · intro loc other
    exact Function.update_of_ne other data h.mPointerData

theorem toNat_location {i : Nat} (inside : i < kMaxVertexAttributes) : (UInt32.ofNat i).toNat = i := by
  rw [UInt32.toNat_ofNat', Nat.mod_eq_of_lt (Nat.lt_trans inside (by decide))]

theorem decode_data {i : Nat} (hi : i < maxIndex) (inside : i < kMaxVertexAttributes) {a : VertexArray}
    (valid : a.Valid) (stride : Int) (data : List UInt8) :
    decodeAll maxIndex h
      [.glEnableVertexAttribArray (.ofNat i), .glBindBuffer GL_ARRAY_BUFFER 0,
        .glVertexAttribPointerData (.ofNat i) a.size a.type a.normalized stride data,
        .glBindBuffer GL_ARRAY_BUFFER h.gl.arrayBuffer] = some (h.withArray i a.packed data, []) := by
  have there := valid.packed
  rw [VertexArray.packed] at there ⊢
  simp only [decodeAll, decode, sGlVertexAttribPointerData, storePointerData, GLContext.bindBuffer,
    GLContext.enableVertexAttribArray, GLContext.vertexAttribPointer, toNat_location inside,
    if_pos inside, hi, there,
    true_and, if_true, Option.bind_some, Option.map_some, List.append_nil]
  rfl

theorem decode_offset {i : Nat} (hi : i < maxIndex) (inside : i < kMaxVertexAttributes) {a : VertexArray}
    (valid : a.Valid) (offset : GLuint) :
    decodeAll maxIndex h
      [.glEnableVertexAttribArray (.ofNat i), .glBindBuffer GL_ARRAY_BUFFER a.buffer,
        .glVertexAttribPointerOffset (.ofNat i) a.size a.type a.normalized a.stride offset,
        .glBindBuffer GL_ARRAY_BUFFER h.gl.arrayBuffer] =
      some (h.withArray i (a.shifted offset.toNat) (h.mPointerData i), []) := by
  have there := valid.shifted offset.toNat
  rw [VertexArray.shifted] at there ⊢
  rw [withArray, Function.update_eq_self]
  simp only [decodeAll, decode, GLContext.bindBuffer, GLContext.enableVertexAttribArray,
    GLContext.vertexAttribPointer,
    toNat_location inside, hi, there, true_and, if_true, Option.bind_some, Option.map_some, List.append_nil]

theorem withArray_attribute (h : GLESv2Decoder) (i : Nat) (a : VertexArray) (data : List UInt8)
    (inside : i < kMaxVertexAttributes) (v : Int) :
    (h.withArray i a data).gl.vertexAttribute (h.withArray i a data).client i v =
      (load (if a.buffer = 0 then cells (data.map some) else cells (h.gl.buffers a.buffer))
        (a.pointer + a.pitch * v) a.width).map fun bytes => (i, ⟨a.size, a.type, a.normalized, bytes⟩) := by
  have there : (h.withArray i a data).gl.arrays i = a := Function.update_self _ _ _
  have stored : (h.withArray i a data).mPointerData i = data := Function.update_self _ _ _
  rw [GLContext.vertexAttribute, GLContext.element, GLContext.arrayMemory, there, client, stored,
    if_pos inside]
  rfl

end GLESv2Decoder

/-- What a draw asks of an array: that its elements can be told to the host in 32 bits, and those in
client memory be read. -/
structure Reach (mem : ByteMemory) (a : VertexArray) (first : Int) (count : Nat) : Prop where
  first_nonneg : 0 ≤ a.pitch * first
  first_lt : a.pitch * first < 2^31
  length : a.buffer = 0 → a.width * count < 2^32
  readable : a.buffer = 0 → (records mem (a.pointer + a.pitch * first) a.pitch a.width count).isSome
  offset_nonneg : a.buffer ≠ 0 → 0 ≤ a.pointer
  offset_lt : a.buffer ≠ 0 → a.pointer + a.pitch * first < 2^32

/-- The encoder knows of a location what GL does. -/
structure Knows (maxIndex : Nat) (s : GLClientState) (g : GLContext) (i : Nat) : Prop where
  enabled : (s.mStates i).enabled = if g.enabled i then 1 else 0
  notes : g.enabled i = true → (s.mStates i).Notes (g.arrays i)
  valid : (g.arrays i).Valid
  within : g.enabled i = true → i < maxIndex

section

variable {maxIndex : Nat} {s : GLClientState} {g : GLContext} {mem : ByteMemory} {first : Int}
  {count i : Nat} {h h' : GLESv2Decoder}

/-- The stride that the encoder reckons with. -/
theorem Knows.pitch (k : Knows maxIndex s g i) (on : g.enabled i = true) :
    (if (s.mStates i).stride = 0 then int32 (s.mStates i).elementSize else (s.mStates i).stride) =
      (g.arrays i).pitch := by
  have small := k.valid.width_le
  rw [(k.notes on).stride, (k.notes on).elementSize, int32_eq (by omega) (by omega), VertexArray.pitch]

theorem Knows.on (k : Knows maxIndex s g i) (on : g.enabled i = true) : (s.mStates i).enabled = 1 := by
  rw [k.enabled, on, if_pos rfl]

theorem Knows.off (k : Knows maxIndex s g i) (off : g.enabled i = false) : (s.mStates i).enabled = 0 := by
  rw [k.enabled, off, if_neg Bool.false_ne_true]

theorem Reach.firstIndex {a : VertexArray} (r : Reach mem a first count) :
    int32 (a.pitch * first) = a.pitch * first := by
  have := r.first_nonneg
  exact int32_eq (by omega) r.first_lt

/-- An array in client memory goes over with its elements. -/
theorem send_client (inside : i < CODEC_MAX_VERTEX_ATTRIBUTES) (k : Knows maxIndex s g i)
    (on : g.enabled i = true) (client : (g.arrays i).buffer = 0)
    (array : s.mCurrentArrayVbo = h.gl.arrayBuffer) (reach : Reach mem (g.arrays i) first count) :
    ∃ cs h', s.sendVertexAttribute mem first count i = some cs ∧
      h.decodeAll maxIndex cs = some (h', []) ∧ h.Touches i h' ∧ h'.gl.enabled i = true ∧
      ∀ v < count, h'.gl.vertexAttribute h'.client i (v : Nat) =
        g.vertexAttribute (fun _ => mem) i (first + (v : Nat)) := by
  obtain ⟨size, type, normalized, stride, data, bufferObject, elementSize⟩ := k.notes on
  obtain ⟨rs, hrs⟩ := Option.isSome_iff_exists.mp (reach.readable client)
  have datalen : uint32 ((g.arrays i).width * count) = (g.arrays i).width * count := by
    rw [← Nat.cast_mul, uint32_natCast (reach.length client)]
  have packed := pack_eq k.valid mem ((g.arrays i).pointer + (g.arrays i).pitch * first) count
  rw [hrs, Option.map_some] at packed
  refine ⟨_, h.withArray i (g.arrays i).packed rs.flatten, ?_,
    GLESv2Decoder.decode_data (k.within on) inside k.valid (g.arrays i).stride rs.flatten,
    h.touches_withArray i _ _, Function.update_self _ _ _, ?_⟩
  · have enabled : (s.mStates i).enabled ≠ 0 := by rw [k.on on]; decide
    rw [GLClientState.sendVertexAttribute]
    dsimp only
    rw [if_neg (fun off => enabled off.2), if_pos enabled, k.pitch on, reach.firstIndex, bufferObject,
      if_pos client, size, type, data, stride, elementSize, normalized, client, datalen, packed, array]
    rfl
  · intro v hv
    have source : (g.arrays i).pointer + (g.arrays i).pitch * (first + (v : Nat)) =
        (g.arrays i).pointer + (g.arrays i).pitch * first + (g.arrays i).pitch * (v : Nat) := by ring
    have element := records_packed hrs hv
    have start : (0 : Int) + (g.arrays i).packed.pitch * (v : Nat) = (g.arrays i).width * (v : Nat) := by
      rw [VertexArray.pitch, if_pos (show (g.arrays i).packed.stride = 0 from rfl), Int.zero_add]
      rfl
    rw [h.withArray_attribute i _ _ inside, if_pos (show (g.arrays i).packed.buffer = 0 from rfl)]
    change (load (cells (rs.flatten.map some)) (0 + (g.arrays i).packed.pitch * (v : Nat))
      (g.arrays i).width).map _ = _
    rw [start, element, GLContext.vertexAttribute, GLContext.element, GLContext.arrayMemory,
      if_pos client, source]
    rfl

/-- Of an array in a buffer the host is told where it starts. -/
theorem sendBuffer (mem : ByteMemory) (first : Int) (count : Nat)
    (inside : i < CODEC_MAX_VERTEX_ATTRIBUTES) (k : Knows maxIndex s g i)
    (on : g.enabled i = true) (buffer : (g.arrays i).buffer ≠ 0)
    (array : s.mCurrentArrayVbo = h.gl.arrayBuffer) (stores : h.gl.buffers = g.buffers) :
    ∃ cs h', s.sendVertexAttribute mem first count i = some cs ∧
      h.decodeAll maxIndex cs = some (h', []) ∧ h.Touches i h' ∧ h'.gl.enabled i = true ∧
      (Reach mem (g.arrays i) first count →
        ∀ v : Nat, h'.gl.vertexAttribute h'.client i v =
          g.vertexAttribute (fun _ => mem) i (first + v)) := by
  obtain ⟨size, type, normalized, stride, data, bufferObject, elementSize⟩ := k.notes on
  let offset : GLuint := .ofNat (uint32 ((g.arrays i).pointer + int32 ((g.arrays i).pitch * first)))
  refine ⟨_, h.withArray i ((g.arrays i).shifted offset.toNat) (h.mPointerData i), ?_,
    GLESv2Decoder.decode_offset (k.within on) inside k.valid offset, h.touches_withArray i _ _,
    Function.update_self _ _ _, ?_⟩
  · have enabled : (s.mStates i).enabled ≠ 0 := by rw [k.on on]; decide
    rw [GLClientState.sendVertexAttribute]
    dsimp only
    rw [if_neg (fun off => enabled off.2), if_pos enabled, k.pitch on, bufferObject, if_neg buffer, size,
      type, data, stride, normalized, array]
    rfl
  · intro reach v
    have low : 0 ≤ (g.arrays i).pointer + (g.arrays i).pitch * first :=
      Int.add_nonneg (reach.offset_nonneg buffer) reach.first_nonneg
    have there : (offset.toNat : Int) = (g.arrays i).pointer + (g.arrays i).pitch * first := by
      have small := uint32_eq low (reach.offset_lt buffer)
      have bound := reach.offset_lt buffer
      rw [UInt32.toNat_ofNat', reach.firstIndex, Nat.mod_eq_of_lt (by omega), small]
    have source : (g.arrays i).pointer + (g.arrays i).pitch * (first + (v : Nat)) =
        (g.arrays i).pointer + (g.arrays i).pitch * first + (g.arrays i).pitch * (v : Nat) := by ring
    rw [h.withArray_attribute i _ _ inside,
      if_neg (show ((g.arrays i).shifted offset.toNat).buffer ≠ 0 from buffer)]
    change (load (cells (h.gl.buffers (g.arrays i).buffer))
      ((offset.toNat : Int) + (g.arrays i).pitch * (v : Nat)) (g.arrays i).width).map _ = _
    rw [there, stores, GLContext.vertexAttribute, GLContext.element, GLContext.arrayMemory,
      if_neg buffer, source]
    rfl

/-- After its turn a location is enabled on the host as it is for the app, and what can be reached of its
array is read there as the app would read it. -/
theorem send_location (inside : i < CODEC_MAX_VERTEX_ATTRIBUTES) (k : Knows maxIndex s g i)
    (array : s.mCurrentArrayVbo = h.gl.arrayBuffer) (stores : h.gl.buffers = g.buffers)
    (kept : (s.mStates i).enableDirty = false → h.gl.enabled i = g.enabled i)
    (beyond : maxIndex ≤ i → h.gl.enabled i = false)
    (client : g.enabled i = true → (g.arrays i).buffer = 0 → Reach mem (g.arrays i) first count) :
    ∃ cs h', s.sendVertexAttribute mem first count i = some cs ∧
      h.decodeAll maxIndex cs = some (h', []) ∧ h.Touches i h' ∧ h'.gl.enabled i = g.enabled i ∧
      (g.enabled i = true → Reach mem (g.arrays i) first count →
        ∀ v : Nat, ((g.arrays i).buffer = 0 → v < count) →
          h'.gl.vertexAttribute h'.client i v = g.vertexAttribute (fun _ => mem) i (first + v)) := by
  cases on : g.enabled i with
  | true =>
    by_cases buffer : (g.arrays i).buffer = 0
    · obtain ⟨cs, h', sent, decoded, touches, enabled, same⟩ :=
        send_client inside k on buffer array (client on buffer)
      exact ⟨cs, h', sent, decoded, touches, enabled, fun _ _ v hv => same v (hv buffer)⟩
    · obtain ⟨cs, h', sent, decoded, touches, enabled, same⟩ :=
        sendBuffer mem first count inside k on buffer array stores
      exact ⟨cs, h', sent, decoded, touches, enabled, fun _ reach v _ => same reach v⟩
  | false =>
    by_cases dirty : (s.mStates i).enableDirty = false
    · refine ⟨[], h, ?_, rfl, .refl i h, (kept dirty).trans on, fun none => by cases none⟩
      rw [GLClientState.sendVertexAttribute]
      exact if_pos ⟨dirty, k.off on⟩
    · refine ⟨[.glDisableVertexAttribArray (.ofNat i)],
        { h with gl := h.gl.enableVertexAttribArray maxIndex (.ofNat i) false }, ?_, rfl, ?_, ?_,
        fun none => by cases none⟩
      · rw [GLClientState.sendVertexAttribute]
        dsimp only
        rw [if_neg (fun clean => dirty clean.1), if_neg (fun enabled => enabled (k.off on))]
      · rw [GLContext.enableVertexAttribArray]
        split_ifs
        · refine ⟨rfl, rfl, rfl, ?_, fun _ _ => rfl, fun _ _ => rfl⟩
          intro loc other
          rw [GLESv2Decoder.toNat_location inside]
          exact Function.update_of_ne other false h.gl.enabled
        · exact .refl i h
      · rw [GLContext.enableVertexAttribArray, GLESv2Decoder.toNat_location inside]
        split_ifs with there
        · exact Function.update_self _ _ _
        · exact beyond (by omega)

/-- The first `n` locations have had their turn. -/
structure Served (mem : ByteMemory) (g : GLContext) (first : Int) (count n : Nat) (h h' : GLESv2Decoder) :
    Prop where
  buffers : h'.gl.buffers = h.gl.buffers
  arrayBuffer : h'.gl.arrayBuffer = h.gl.arrayBuffer
  elementArrayBuffer : h'.gl.elementArrayBuffer = h.gl.elementArrayBuffer
  later : ∀ loc, n ≤ loc → h'.gl.enabled loc = h.gl.enabled loc
  enabled : ∀ loc < n, h'.gl.enabled loc = g.enabled loc
  same : ∀ loc < n, g.enabled loc = true → Reach mem (g.arrays loc) first count →
    ∀ v : Nat, ((g.arrays loc).buffer = 0 → v < count) →
      h'.gl.vertexAttribute h'.client loc v = g.vertexAttribute (fun _ => mem) loc (first + v)

theorem send_locations {n : Nat} (inside : n ≤ CODEC_MAX_VERTEX_ATTRIBUTES)
    (k : ∀ i < n, Knows maxIndex s g i) (array : s.mCurrentArrayVbo = h.gl.arrayBuffer)
    (stores : h.gl.buffers = g.buffers)
    (kept : ∀ i < n, (s.mStates i).enableDirty = false → h.gl.enabled i = g.enabled i)
    (beyond : ∀ i, maxIndex ≤ i → h.gl.enabled i = false)
    (client : ∀ i, g.enabled i = true → (g.arrays i).buffer = 0 → Reach mem (g.arrays i) first count) :
    ∃ css h', (List.range n).mapM (s.sendVertexAttribute mem first count) = some css ∧
      h.decodeAll maxIndex css.flatten = some (h', []) ∧ Served mem g first count n h h' := by
  induction n with
  | zero =>
    have none {loc : Nat} : ¬loc < 0 := Nat.not_lt_zero loc
    exact ⟨[], h, rfl, rfl, rfl, rfl, rfl, fun _ _ => rfl, fun _ hl => absurd hl none,
      fun _ hl => absurd hl none⟩
  | succ n ih =>
    obtain ⟨css, h₁, sent, decoded, served⟩ :=
      ih (by omega) (fun i hi => k i (by omega)) (fun i hi => kept i (by omega))
    have untouched : h₁.gl.enabled n = h.gl.enabled n := served.later n (le_refl n)
    obtain ⟨cs, h₂, sent', decoded', touches, enabled, same⟩ :=
      send_location (by omega) (k n (by omega))
        (array.trans served.arrayBuffer.symm) (served.buffers.trans stores)
        (fun clean => untouched.trans (kept n (by omega) clean))
        (fun le => untouched.trans (beyond n le)) (client n)
    refine ⟨css ++ [cs], h₂, ?_, ?_, ?_⟩
    · rw [mapM_range_succ, sent, Option.bind_some, sent', Option.map_some]
    · rw [List.flatten_append, List.flatten_singleton, GLESv2Decoder.decodeAll_append decoded, decoded']
      rfl
    · refine ⟨touches.buffers.trans served.buffers, touches.arrayBuffer.trans served.arrayBuffer,
        touches.elementArrayBuffer.trans served.elementArrayBuffer, ?_, ?_, ?_⟩
      · intro loc hl
        rw [touches.enabled loc (by omega), served.later loc (by omega)]
      · intro loc hl
        by_cases last : loc = n
        · exact last ▸ enabled
        · rw [touches.enabled loc last, served.enabled loc (by omega)]
      · intro loc hl on reach v hv
        by_cases last : loc = n
        · subst last
          exact same on reach v hv
        · rw [touches.vertexAttribute last, served.same loc (by omega) on reach v hv]

end

end Anbox.Gles2
