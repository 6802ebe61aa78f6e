import Anbox.Gles2.VertexArrays

namespace Anbox.Gles2

open Anbox.Framework

def GL_INVALID_ENUM : GLenum := 0x0500
def GL_INVALID_VALUE : GLenum := 0x0501
def GL_INVALID_OPERATION : GLenum := 0x0502

/-- What the encoder writes to the stream for the host, a command with the bytes it carries. -/
inductive Command
  | glBindBuffer (target : GLenum) (id : GLuint)
  | glBufferData (target : GLenum) (size : Int) (data : Option (List UInt8)) (usage : GLenum)
  | glBufferSubData (target : GLenum) (offset size : Int) (data : List UInt8)
  | glDeleteBuffer (id : GLuint)
  | glEnableVertexAttribArray (index : GLuint)
  | glDisableVertexAttribArray (index : GLuint)
  | glVertexAttribPointerData (indx : GLuint) (size : Int) (type : GLenum) (normalized : Bool)
    (stride : Int) (data : List UInt8)
  | glVertexAttribPointerOffset (indx : GLuint) (size : Int) (type : GLenum) (normalized : Bool)
    (stride : Int) (offset : GLuint)
  | glDrawArrays (mode : GLenum) (first count : Int)
  | glDrawElementsData (mode : GLenum) (count : Int) (type : GLenum) (data : List UInt8)
  | glDrawElementsOffset (mode : GLenum) (count : Int) (type : GLenum) (offset : GLuint)
  deriving DecidableEq

/-! Conversions to the C types of 32 bits, and sums of the size of a pointer. -/

def int32 (x : Int) : Int := x.bmod (2^32)

def uint32 (x : Int) : Nat := (x % 2^32).toNat

def intptr (x : Int) : Int := x.bmod (2^64)

/-! `glUtils`. -/

def glSizes : List (GLenum × Nat) :=
  [(GL_BYTE, 1), (GL_UNSIGNED_BYTE, 1),
    (GL_SHORT, 2), (GL_UNSIGNED_SHORT, 2), (0x8D61, 2), -- GL_HALF_FLOAT_OES
    (GL_UNSIGNED_INT, 4), (GL_INT, 4), (GL_FLOAT, 4), (GL_FIXED, 4), (0x8B56, 4), -- GL_BOOL
    (0x8B50, 8), (0x8B53, 8), (0x8B57, 8), -- GL_FLOAT_VEC2, GL_INT_VEC2, GL_BOOL_VEC2
    (0x8B54, 12), (0x8B58, 12), (0x8B51, 12), -- GL_INT_VEC3, GL_BOOL_VEC3, GL_FLOAT_VEC3
    (0x8B52, 16), (0x8B59, 16), (0x8B55, 16), -- GL_FLOAT_VEC4, GL_BOOL_VEC4, GL_INT_VEC4
    (0x8B5A, 16), (0x8B5B, 36), (0x8B5C, 64), -- GL_FLOAT_MAT2, GL_FLOAT_MAT3, GL_FLOAT_MAT4
    (0x8B5E, 4), (0x8B60, 4)] -- GL_SAMPLER_2D, GL_SAMPLER_CUBE

def glSizeof (type : GLenum) : Nat := (glSizes.lookup type).getD 0

/-- `datalen` bytes are written; where the loop copies more than them, they overrun the packet. -/
def glUtilsPackPointerData (mem : ByteMemory) (src : Int) (size : Int) (type : GLenum)
    (stride datalen : Nat) : Option (List UInt8) :=
  let vsize := uint32 (size * glSizeof type)
  let stride := if stride = 0 then vsize else stride
  if stride = vsize then load mem src datalen
  else if datalen % vsize = 0 then
    (records mem src stride vsize (datalen / vsize)).map List.flatten
  else none

/-- An index of four bytes is unsigned, and a bound is made so to be compared with it. -/
def promoted (w : Nat) (x : Int) : Int := if w = 4 then uint32 x else x

/-- The turn of the loop of `minmax` for one index. A bound is −1 until there is one. -/
def minmaxTurn (w : Nat) (bounds : Int × Int) (p : Nat) : Int × Int :=
  (if bounds.1 = -1 ∨ (p : Int) < promoted w bounds.1 then int32 p else bounds.1,
    if bounds.2 = -1 ∨ promoted w bounds.2 < (p : Int) then int32 p else bounds.2)

def minmax (w : Nat) (indices : List Nat) : Int × Int := indices.foldl (minmaxTurn w) (-1, -1)

def shiftIndices (w : Nat) (indices : List Nat) (offset : Int) : List Nat :=
  indices.map fun (p : Nat) => (((p : Int) + offset) % 256^w).toNat

/-! `GLClientState` -/

def CODEC_MAX_VERTEX_ATTRIBUTES : Nat := 64

structure VertexAttribState where
  enabled : Int
  size : Int
  type : GLenum
  stride : Int
  data : Int
  bufferObject : GLuint
  elementSize : Nat
  /-- whether it was enabled or disabled since the last draw -/
  enableDirty : Bool
  normalized : Bool
  deriving DecidableEq

structure GLClientState where
  mStates : Nat → VertexAttribState
  mCurrentArrayVbo : GLuint
  mCurrentIndexVbo : GLuint

namespace GLClientState

/-- The fields that the constructor does not set are as they were found. -/
def fresh (found : Nat → VertexAttribState) : GLClientState where
  mStates := fun i => { found i with enabled := 0, enableDirty := false, data := 0 }
  mCurrentArrayVbo := 0
  mCurrentIndexVbo := 0

/-- A location goes from unsigned to signed before it is looked at. -/
def validLocation (location : Int) : Prop :=
  0 ≤ location ∧ location < CODEC_MAX_VERTEX_ATTRIBUTES

instance (location : Int) : Decidable (validLocation location) :=
  inferInstanceAs (Decidable (_ ∧ _))

/-- `mStates[location]` is changed, if there is such a location. -/
def edit (s : GLClientState) (location : Int) (f : VertexAttribState → VertexAttribState) : GLClientState :=
  if ¬validLocation location then s
  else { s with mStates := Function.update s.mStates location.toNat (f (s.mStates location.toNat)) }

def enable (s : GLClientState) (location : Int) (state : Int) : GLClientState :=
  s.edit location fun st =>
    { st with enableDirty := st.enableDirty || decide (state ≠ st.enabled), enabled := state }

def setState (s : GLClientState) (location : Int) (size : Int) (type : GLenum) (normalized : Bool)
    (stride : Int) (data : Int) : GLClientState :=
  s.edit location fun st =>
    { st with
      size := size
      type := type
      stride := stride
      data := data
      bufferObject := s.mCurrentArrayVbo
      elementSize := if size ≠ 0 then uint32 (glSizeof type * size) else 0
      normalized := normalized }

def unBindBuffer (s : GLClientState) (id : GLuint) : GLClientState :=
  if s.mCurrentArrayVbo = id then { s with mCurrentArrayVbo := 0 }
  else if s.mCurrentIndexVbo = id then { s with mCurrentIndexVbo := 0 }
  else s

def bindBuffer (s : GLClientState) (target : GLenum) (id : GLuint) : GLClientState :=
  if target = GL_ARRAY_BUFFER then { s with mCurrentArrayVbo := id }
  else if target = GL_ELEMENT_ARRAY_BUFFER then { s with mCurrentIndexVbo := id }
  else s

def getBuffer (s : GLClientState) (target : GLenum) : GLuint :=
  if target = GL_ARRAY_BUFFER then s.mCurrentArrayVbo
  else if target = GL_ELEMENT_ARRAY_BUFFER then s.mCurrentIndexVbo
  else -1

/-- Once `getStateAndEnableDirty` has been asked for all locations. -/
def cleared (s : GLClientState) : GLClientState :=
  { s with mStates := fun i => { s.mStates i with enableDirty := false } }

/-- What `sendVertexAttributes` sends for location `i`. -/
def sendVertexAttribute (s : GLClientState) (mem : ByteMemory) (first count : Int) (i : Nat) :
    Option (List Command) :=
  let state := s.mStates i
  if state.enableDirty = false ∧ state.enabled = 0 then some []
  else if state.enabled ≠ 0 then
    let datalen := uint32 (state.elementSize * count)
    let stride := if state.stride = 0 then int32 state.elementSize else state.stride
    let firstIndex := int32 (stride * first)
    let pointer :=
      if state.bufferObject = 0 then
        (glUtilsPackPointerData mem (state.data + firstIndex) state.size state.type
          (uint32 state.stride) datalen).map fun data =>
            .glVertexAttribPointerData (.ofNat i) state.size state.type state.normalized state.stride data
      else
        some (.glVertexAttribPointerOffset (.ofNat i) state.size state.type state.normalized state.stride
          (.ofNat (uint32 (state.data + firstIndex))))
    pointer.map fun c =>
      [.glEnableVertexAttribArray (.ofNat i), .glBindBuffer GL_ARRAY_BUFFER state.bufferObject, c,
        .glBindBuffer GL_ARRAY_BUFFER s.mCurrentArrayVbo]
  else some [.glDisableVertexAttribArray (.ofNat i)]

/-- Whether a location is enabled, and of its state `p` holds. -/
def anyEnabled (s : GLClientState) (p : VertexAttribState → Bool) : Bool :=
  (List.range CODEC_MAX_VERTEX_ATTRIBUTES).any fun i =>
    decide ((s.mStates i).enabled ≠ 0) && p (s.mStates i)

end GLClientState

/-! `GLSharedGroup` -/

/-- A byte that was never written is `none`. -/
structure BufferData where
  mFixedBuffer : List (Option UInt8)
  deriving DecidableEq

def BufferData.mSize (b : BufferData) : Int := b.mFixedBuffer.length

structure GL2Encoder where
  mState : GLClientState
  /-- `m_buffers` of the shared group -/
  mShared : GLuint → Option BufferData
  mError : GLenum

namespace GL2Encoder

def fresh (found : Nat → VertexAttribState) : GL2Encoder := ⟨.fresh found, fun _ => none, 0⟩

def setError (ctx : GL2Encoder) (error : GLenum) : GL2Encoder := { ctx with mError := error }

def updateBufferData (ctx : GL2Encoder) (bufferId : GLuint) (data : List (Option UInt8)) : GL2Encoder :=
  { ctx with mShared := Function.update ctx.mShared bufferId (some ⟨data⟩) }

def deleteBufferData (ctx : GL2Encoder) (bufferId : GLuint) : GL2Encoder :=
  { ctx with mShared := Function.update ctx.mShared bufferId none }

def isTarget (target : GLenum) : Prop := target = GL_ARRAY_BUFFER ∨ target = GL_ELEMENT_ARRAY_BUFFER

instance (target : GLenum) : Decidable (isTarget target) := inferInstanceAs (Decidable (_ ∨ _))

def sGlBindBuffer (ctx : GL2Encoder) (target : GLenum) (id : GLuint) : GL2Encoder × List Command :=
  ({ ctx with mState := ctx.mState.bindBuffer target id }, [.glBindBuffer target id])

/-- The size goes over the wire in four bytes. -/
def sGlBufferData (ctx : GL2Encoder) (mem : ByteMemory) (target : GLenum) (size data : Int)
    (usage : GLenum) : Option (GL2Encoder × List Command) :=
  if ¬isTarget target then some (ctx.setError GL_INVALID_ENUM, [])
  else if ctx.mState.getBuffer target = 0 then some (ctx.setError GL_INVALID_OPERATION, [])
  else if size < 0 then some (ctx.setError GL_INVALID_VALUE, [])
  else if data = 0 then
    some (ctx.updateBufferData (ctx.mState.getBuffer target) (List.replicate size.toNat none),
      [.glBufferData target (uint32 size) none usage])
  else
    (load mem data size.toNat).map fun bytes =>
      (ctx.updateBufferData (ctx.mState.getBuffer target) (bytes.map some),
        [.glBufferData target (uint32 size) (some bytes) usage])

/-- `subUpdateBufferData`: the buffer written to, if the bytes have room in it. -/
def subUpdateBufferData (ctx : GL2Encoder) (bufferId : GLuint) (offset size : Int) : Option BufferData :=
  (ctx.mShared bufferId).filter fun buf =>
    ¬(buf.mSize < intptr (offset + size) ∨ offset < 0 ∨ size < 0)

def sGlBufferSubData (ctx : GL2Encoder) (mem : ByteMemory) (target : GLenum) (offset size data : Int) :
    Option (GL2Encoder × List Command) :=
  if ¬isTarget target then some (ctx.setError GL_INVALID_ENUM, [])
  else if ctx.mState.getBuffer target = 0 then some (ctx.setError GL_INVALID_OPERATION, [])
  else
    match ctx.subUpdateBufferData (ctx.mState.getBuffer target) offset size with
    | none => some (ctx.setError GL_INVALID_VALUE, [])
    | some buf =>
      (load mem data size.toNat).map fun bytes =>
        (ctx.updateBufferData (ctx.mState.getBuffer target)
            (GLContext.splice buf.mFixedBuffer offset.toNat bytes),
          [.glBufferSubData target (uint32 offset) (uint32 size) bytes])

/-- The turn of the loop of `sGlDeleteBuffers` for one name. -/
def deleteBuffer (ctx : GL2Encoder) (id : GLuint) : GL2Encoder :=
  { ctx.deleteBufferData id with mState := ctx.mState.unBindBuffer id }

def sGlDeleteBuffers (ctx : GL2Encoder) (n : Int) (buffers : Nat → GLuint) :
    GL2Encoder × List Command :=
  if n < 0 then (ctx.setError GL_INVALID_VALUE, [])
  else
    (((List.range n.toNat).map buffers).foldl deleteBuffer ctx,
      ((List.range n.toNat).map buffers).map .glDeleteBuffer)

def sGlVertexAttribPointer (ctx : GL2Encoder) (indx : GLuint) (size : Int) (type : GLenum)
    (normalized : Bool) (stride ptr : Int) : GL2Encoder :=
  { ctx with mState := ctx.mState.setState (int32 indx.toNat) size type normalized stride ptr }

/-- The two that enable and disable; `maxIndex` is what the host says of `GL_MAX_VERTEX_ATTRIBS`. -/
def sGlEnableVertexAttribArray (ctx : GL2Encoder) (maxIndex : Nat) (index : GLuint) (state : Int) :
    GL2Encoder :=
  if ¬(index.toNat < maxIndex) then ctx.setError GL_INVALID_VALUE
  else { ctx with mState := ctx.mState.enable (int32 index.toNat) state }

def sendVertexAttributes (ctx : GL2Encoder) (mem : ByteMemory) (first count : Int) :
    Option (GL2Encoder × List Command) :=
  ((List.range CODEC_MAX_VERTEX_ATTRIBUTES).mapM (ctx.mState.sendVertexAttribute mem first count)).map
    fun cs => ({ ctx with mState := ctx.mState.cleared }, cs.flatten)

def isValidDrawMode (mode : GLenum) : Prop :=
  mode ∈ [GL_POINTS, GL_LINE_STRIP, GL_LINE_LOOP, GL_LINES, GL_TRIANGLE_STRIP, GL_TRIANGLE_FAN,
    GL_TRIANGLES]

instance (mode : GLenum) : Decidable (isValidDrawMode mode) := inferInstanceAs (Decidable (_ ∈ _))

def isValidDrawType (mode : GLenum) : Prop :=
  mode = GL_UNSIGNED_BYTE ∨ mode = GL_UNSIGNED_SHORT ∨ mode = GL_UNSIGNED_INT

instance (mode : GLenum) : Decidable (isValidDrawType mode) := inferInstanceAs (Decidable (_ ∨ _ ∨ _))

/-- An array is enabled with no data bound: neither a buffer nor a pointer. -/
def lacksData (state : VertexAttribState) : Bool := state.bufferObject = 0 ∧ state.data = 0

def sGlDrawArrays (ctx : GL2Encoder) (mem : ByteMemory) (mode : GLenum) (first count : Int) :
    Option (GL2Encoder × List Command) :=
  if ¬isValidDrawMode mode then some (ctx.setError GL_INVALID_ENUM, [])
  else if count < 0 then some (ctx.setError GL_INVALID_VALUE, [])
  else if ctx.mState.anyEnabled lacksData then some (ctx.setError GL_INVALID_OPERATION, [])
  else if ¬ctx.mState.anyEnabled fun _ => true then some (ctx, [])
  else
    (ctx.sendVertexAttributes mem first count).map fun (ctx, cs) =>
      (ctx, cs ++ [.glDrawArrays mode 0 count])

/-- The indices are sent with the arrays they address, cut to the range they lie in. -/
def sendIndices (ctx : GL2Encoder) (mem source : ByteMemory) (mode : GLenum) (count : Int) (type : GLenum)
    (indices : Int) : Option (GL2Encoder × List Command) :=
  (numbers source indices (glSizeof type) count.toNat).bind fun ps =>
    let minIndex := (minmax (glSizeof type) ps).1
    let maxIndex := (minmax (glSizeof type) ps).2
    let adjustedIndices :=
      if minIndex ≠ 0 then
        some ((shiftIndices (glSizeof type) ps (int32 (-minIndex))).flatMap (little (glSizeof type)))
      else load source indices (count.toNat * glSizeof type)
    (ctx.sendVertexAttributes mem minIndex (int32 (maxIndex - minIndex + 1))).bind fun (ctx, cs) =>
      adjustedIndices.map fun data => (ctx, cs ++ [.glDrawElementsData mode count type data])

def sGlDrawElements (ctx : GL2Encoder) (mem : ByteMemory) (mode : GLenum) (count : Int) (type : GLenum)
    (indices : Int) : Option (GL2Encoder × List Command) :=
  let hasImmediateArrays := ctx.mState.anyEnabled fun state => state.bufferObject = 0
  if ¬(isValidDrawMode mode ∧ isValidDrawType type) then some (ctx.setError GL_INVALID_ENUM, [])
  else if count < 0 then some (ctx.setError GL_INVALID_VALUE, [])
  else if ctx.mState.anyEnabled lacksData then some (ctx.setError GL_INVALID_OPERATION, [])
  else if ¬ctx.mState.anyEnabled fun _ => true then some (ctx, [])
  else if ctx.mState.mCurrentIndexVbo = 0 then ctx.sendIndices mem mem mode count type indices
  else if ¬hasImmediateArrays then
    (ctx.sendVertexAttributes mem 0 count).map fun (ctx, cs) =>
      (ctx, cs ++ [.glBindBuffer GL_ELEMENT_ARRAY_BUFFER ctx.mState.mCurrentIndexVbo,
        .glDrawElementsOffset mode count type (.ofNat (uint32 indices))])
  else
    (ctx.mShared ctx.mState.mCurrentIndexVbo).bind fun buf =>
      (ctx.sendIndices mem (cells buf.mFixedBuffer) mode count type indices).map fun (ctx, cs) =>
        (ctx, .glBindBuffer GL_ELEMENT_ARRAY_BUFFER 0 :: cs)

/-- What is done once the checks of `sGlDrawElements` are passed. -/
theorem sGlDrawElements_checked (ctx : GL2Encoder) {mode : GLenum} {count : Int} {type : GLenum}
    (shape : isValidDrawMode mode ∧ isValidDrawType type) (nonneg : ¬count < 0)
    (data : ctx.mState.anyEnabled lacksData = false)
    (enabled : (ctx.mState.anyEnabled fun _ => true) = true) (mem : ByteMemory) (indices : Int) :
    ctx.sGlDrawElements mem mode count type indices =
      if ctx.mState.mCurrentIndexVbo = 0 then ctx.sendIndices mem mem mode count type indices
      else if ¬((ctx.mState.anyEnabled fun state => decide (state.bufferObject = 0)) = true) then
        (ctx.sendVertexAttributes mem 0 count).map fun (ctx, cs) =>
          (ctx, cs ++ [.glBindBuffer GL_ELEMENT_ARRAY_BUFFER ctx.mState.mCurrentIndexVbo,
            .glDrawElementsOffset mode count type (.ofNat (uint32 indices))])
      else
        (ctx.mShared ctx.mState.mCurrentIndexVbo).bind fun buf =>
          (ctx.sendIndices mem (cells buf.mFixedBuffer) mode count type indices).map fun (ctx, cs) =>
            (ctx, .glBindBuffer GL_ELEMENT_ARRAY_BUFFER 0 :: cs) := by
  rw [sGlDrawElements]
  dsimp only
  rw [if_neg (not_not.mpr shape), if_neg nonneg, data, if_neg Bool.false_ne_true, enabled,
    if_neg (not_not.mpr rfl)]

/-- A call made with client memory `mem`: the encoder after it, and what it has sent. -/
def call (maxIndex : Nat) (ctx : GL2Encoder) (mem : ByteMemory) : Call → Option (GL2Encoder × List Command)
  | .bindBuffer target id => some (ctx.sGlBindBuffer target id)
  | .bufferData target size data usage => ctx.sGlBufferData mem target size data usage
  | .bufferSubData target offset size data => ctx.sGlBufferSubData mem target offset size data
  | .deleteBuffers n buffers => some (ctx.sGlDeleteBuffers n buffers)
  | .vertexAttribPointer index size type normalized stride pointer =>
    some (ctx.sGlVertexAttribPointer index size type normalized stride pointer, [])
  | .enableVertexAttribArray index => some (ctx.sGlEnableVertexAttribArray maxIndex index 1, [])
  | .disableVertexAttribArray index => some (ctx.sGlEnableVertexAttribArray maxIndex index 0, [])
  | .drawArrays mode first count => ctx.sGlDrawArrays mem mode first count
  | .drawElements mode count type indices => ctx.sGlDrawElements mem mode count type indices

end GL2Encoder

end Anbox.Gles2
