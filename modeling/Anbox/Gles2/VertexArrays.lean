import Anbox.Framework.Memory
import Mathlib.Logic.Function.Basic

namespace Anbox.Gles2

open Anbox.Framework

abbrev GLenum := UInt32

abbrev GLuint := UInt32

def GL_ARRAY_BUFFER : GLenum := 0x8892
def GL_ELEMENT_ARRAY_BUFFER : GLenum := 0x8893

def GL_STREAM_DRAW : GLenum := 0x88E0
def GL_STATIC_DRAW : GLenum := 0x88E4
def GL_DYNAMIC_DRAW : GLenum := 0x88E8

def GL_BYTE : GLenum := 0x1400
def GL_UNSIGNED_BYTE : GLenum := 0x1401
def GL_SHORT : GLenum := 0x1402
def GL_UNSIGNED_SHORT : GLenum := 0x1403
def GL_INT : GLenum := 0x1404
def GL_UNSIGNED_INT : GLenum := 0x1405
def GL_FLOAT : GLenum := 0x1406
def GL_FIXED : GLenum := 0x140C

def GL_POINTS : GLenum := 0
def GL_LINES : GLenum := 1
def GL_LINE_LOOP : GLenum := 2
def GL_LINE_STRIP : GLenum := 3
def GL_TRIANGLES : GLenum := 4
def GL_TRIANGLE_STRIP : GLenum := 5
def GL_TRIANGLE_FAN : GLenum := 6

/-! What OpenGL ES 2.0 says of vertex arrays, buffer objects and the two ways to draw. A call that it
answers with an error has no effect; `none` stands for a read of memory that is not there. -/

def drawModes : List GLenum :=
  [GL_POINTS, GL_LINE_STRIP, GL_LINE_LOOP, GL_LINES, GL_TRIANGLE_STRIP, GL_TRIANGLE_FAN, GL_TRIANGLES]

def indexTypes : List GLenum := [GL_UNSIGNED_BYTE, GL_UNSIGNED_SHORT, GL_UNSIGNED_INT]

def usages : List GLenum := [GL_STREAM_DRAW, GL_STATIC_DRAW, GL_DYNAMIC_DRAW]

/-- The bytes of one component of an attribute; 0 when attributes are not of this type. -/
def componentSize (type : GLenum) : Nat :=
  if type = GL_BYTE ∨ type = GL_UNSIGNED_BYTE then 1
  else if type = GL_SHORT ∨ type = GL_UNSIGNED_SHORT then 2
  else if type = GL_FLOAT ∨ type = GL_FIXED then 4
  else 0

def indexSize (type : GLenum) : Nat :=
  if type = GL_UNSIGNED_BYTE then 1 else if type = GL_UNSIGNED_SHORT then 2 else 4

structure VertexArray where
  size : Int
  type : GLenum
  normalized : Bool
  stride : Int
  /-- 0 for an array in client memory -/
  buffer : GLuint
  /-- the address in client memory, or the offset in the buffer -/
  pointer : Int
  deriving DecidableEq

namespace VertexArray

def initial : VertexArray := ⟨4, GL_FLOAT, false, 0, 0, 0⟩

/-- The bytes of one element. -/
def width (a : VertexArray) : Nat := componentSize a.type * a.size.toNat

/-- The bytes from one element to the next. -/
def pitch (a : VertexArray) : Int := if a.stride = 0 then a.width else a.stride

/-- What `glVertexAttribPointer` takes; its stride is of 32 bits. -/
structure Valid (a : VertexArray) : Prop where
  size_pos : 1 ≤ a.size
  size_le : a.size ≤ 4
  stride_nonneg : 0 ≤ a.stride
  stride_lt : a.stride < 2^31
  type : componentSize a.type ≠ 0

instance (a : VertexArray) : Decidable a.Valid :=
  decidable_of_iff (1 ≤ a.size ∧ a.size ≤ 4 ∧ 0 ≤ a.stride ∧ a.stride < 2^31 ∧ componentSize a.type ≠ 0)
    ⟨fun h => ⟨h.1, h.2.1, h.2.2.1, h.2.2.2.1, h.2.2.2.2⟩, fun h => ⟨h.1, h.2, h.3, h.4, h.5⟩⟩

theorem initial_valid : initial.Valid := by decide

end VertexArray

structure GLContext where
  /-- a name without a store has the empty one -/
  buffers : GLuint → List (Option UInt8)
  arrayBuffer : GLuint
  elementArrayBuffer : GLuint
  enabled : Nat → Bool
  arrays : Nat → VertexArray

/-- The value that a vertex has for one attribute, as the shader is given it. -/
structure Attribute where
  size : Int
  type : GLenum
  normalized : Bool
  bytes : List UInt8
  deriving DecidableEq

/-- A primitive sequence: each vertex with its attributes by their locations. -/
structure Drawn where
  mode : GLenum
  vertices : List (List (Nat × Attribute))
  deriving DecidableEq

/-- The calls, with addresses for their pointers; NULL is 0. -/
inductive Call
  | bindBuffer (target : GLenum) (id : GLuint)
  | bufferData (target : GLenum) (size : Int) (data : Int) (usage : GLenum)
  | bufferSubData (target : GLenum) (offset size : Int) (data : Int)
  | deleteBuffers (n : Int) (buffers : Nat → GLuint)
  | vertexAttribPointer (index : GLuint) (size : Int) (type : GLenum) (normalized : Bool) (stride : Int)
    (pointer : Int)
  | enableVertexAttribArray (index : GLuint)
  | disableVertexAttribArray (index : GLuint)
  | drawArrays (mode : GLenum) (first count : Int)
  | drawElements (mode : GLenum) (count : Int) (type : GLenum) (indices : Int)

namespace GLContext

def initial : GLContext := ⟨fun _ => [], 0, 0, fun _ => false, fun _ => VertexArray.initial⟩

/-- The buffer bound to a target; `none` if it is no target. -/
def bound (g : GLContext) (target : GLenum) : Option GLuint :=
  if target = GL_ARRAY_BUFFER then some g.arrayBuffer
  else if target = GL_ELEMENT_ARRAY_BUFFER then some g.elementArrayBuffer
  else none

def bindBuffer (g : GLContext) (target : GLenum) (id : GLuint) : GLContext :=
  if target = GL_ARRAY_BUFFER then { g with arrayBuffer := id }
  else if target = GL_ELEMENT_ARRAY_BUFFER then { g with elementArrayBuffer := id }
  else g

/-- The contents are read only once the call is found to be in order. -/
def bufferData (g : GLContext) (target : GLenum) (size : Int) (usage : GLenum)
    (contents : Option (List (Option UInt8))) : Option GLContext :=
  match g.bound target with
  | none => some g
  | some id =>
    if id = 0 ∨ size < 0 ∨ usage ∉ usages then some g
    else contents.map fun s => { g with buffers := Function.update g.buffers id s }

/-- A store with so many of its cells written anew. -/
def splice (s : List (Option UInt8)) (offset : Nat) (bytes : List UInt8) : List (Option UInt8) :=
  s.take offset ++ bytes.map some ++ s.drop (offset + bytes.length)

def bufferSubData (g : GLContext) (target : GLenum) (offset size : Int) (contents : Option (List UInt8)) :
    Option GLContext :=
  match g.bound target with
  | none => some g
  | some id =>
    if id = 0 ∨ offset < 0 ∨ size < 0 ∨ (g.buffers id).length < offset + size then some g
    else contents.map fun bytes =>
      { g with buffers := Function.update g.buffers id (splice (g.buffers id) offset.toNat bytes) }

/-- The bindings to a deleted buffer are reset, those of the arrays too. -/
def deleteBuffer (g : GLContext) (id : GLuint) : GLContext :=
  if id = 0 then g
  else
    { g with
      buffers := Function.update g.buffers id []
      arrayBuffer := if g.arrayBuffer = id then 0 else g.arrayBuffer
      elementArrayBuffer := if g.elementArrayBuffer = id then 0 else g.elementArrayBuffer
      arrays := fun loc =>
        if (g.arrays loc).buffer = id then { g.arrays loc with buffer := 0 } else g.arrays loc }

section

-- the value of `GL_MAX_VERTEX_ATTRIBS`
variable (maxIndex : Nat)

def vertexAttribPointer (g : GLContext) (index : GLuint) (size : Int) (type : GLenum) (normalized : Bool)
    (stride : Int) (pointer : Int) : GLContext :=
  let a : VertexArray := ⟨size, type, normalized, stride, g.arrayBuffer, pointer⟩
  if index.toNat < maxIndex ∧ a.Valid then { g with arrays := Function.update g.arrays index.toNat a }
  else g

def enableVertexAttribArray (g : GLContext) (index : GLuint) (on : Bool) : GLContext :=
  if index.toNat < maxIndex then { g with enabled := Function.update g.enabled index.toNat on } else g

/-- Where the array of a location is read. Each may have a memory of its own. -/
def arrayMemory (client : Nat → ByteMemory) (g : GLContext) (loc : Nat) : ByteMemory :=
  if (g.arrays loc).buffer = 0 then client loc else cells (g.buffers (g.arrays loc).buffer)

/-- The bytes of an element. -/
def element (client : Nat → ByteMemory) (g : GLContext) (loc : Nat) (v : Int) : Option (List UInt8) :=
  load (g.arrayMemory client loc) ((g.arrays loc).pointer + (g.arrays loc).pitch * v) (g.arrays loc).width

def vertexAttribute (client : Nat → ByteMemory) (g : GLContext) (loc : Nat) (v : Int) :
    Option (Nat × Attribute) :=
  (g.element client loc v).map fun bytes =>
    (loc, ⟨(g.arrays loc).size, (g.arrays loc).type, (g.arrays loc).normalized, bytes⟩)

def vertex (client : Nat → ByteMemory) (g : GLContext) (v : Int) : Option (List (Nat × Attribute)) :=
  ((List.range maxIndex).filter g.enabled).mapM fun loc => g.vertexAttribute client loc v

def draw (client : Nat → ByteMemory) (g : GLContext) (mode : GLenum) (vs : List Int) :
    Option (List Drawn) :=
  if vs = [] then some [] else (vs.mapM (g.vertex maxIndex client)).map fun vertices => [⟨mode, vertices⟩]

def drawArrays (client : Nat → ByteMemory) (g : GLContext) (mode : GLenum) (first count : Int) :
    Option (List Drawn) :=
  if mode ∈ drawModes ∧ 0 ≤ first ∧ 0 ≤ count then
    g.draw maxIndex client mode ((List.range count.toNat).map fun k => first + (k : Nat))
  else some []

/-- The indices that a draw reads: from a buffer, if one is bound, else from client memory. -/
def indices (mem : ByteMemory) (g : GLContext) (count : Int) (type : GLenum) (offset : Int) :
    Option (List Nat) :=
  numbers (if g.elementArrayBuffer = 0 then mem else cells (g.buffers g.elementArrayBuffer)) offset
    (indexSize type) count.toNat

def drawElements (client : Nat → ByteMemory) (mem : ByteMemory) (g : GLContext) (mode : GLenum)
    (count : Int) (type : GLenum) (offset : Int) : Option (List Drawn) :=
  if mode ∈ drawModes ∧ type ∈ indexTypes ∧ 0 ≤ count then
    (g.indices mem count type offset).bind fun vs =>
      g.draw maxIndex client mode (vs.map fun (v : Nat) => (v : Int))
  else some []

/-- A call made with client memory `mem`, and what it draws. -/
def call (g : GLContext) (mem : ByteMemory) : Call → Option (GLContext × List Drawn)
  | .bindBuffer target id => some (g.bindBuffer target id, [])
  | .bufferData target size data usage =>
    (g.bufferData target size usage
      (if data = 0 then some (List.replicate size.toNat none)
        else (load mem data size.toNat).map (List.map some))).map (·, [])
  | .bufferSubData target offset size data =>
    (g.bufferSubData target offset size (load mem data size.toNat)).map (·, [])
  | .deleteBuffers n buffers => some (((List.range n.toNat).map buffers).foldl deleteBuffer g, [])
  | .vertexAttribPointer index size type normalized stride pointer =>
    some (g.vertexAttribPointer maxIndex index size type normalized stride pointer, [])
  | .enableVertexAttribArray index => some (g.enableVertexAttribArray maxIndex index true, [])
  | .disableVertexAttribArray index => some (g.enableVertexAttribArray maxIndex index false, [])
  | .drawArrays mode first count => (g.drawArrays maxIndex (fun _ => mem) mode first count).map (g, ·)
  | .drawElements mode count type offset =>
    (g.drawElements maxIndex (fun _ => mem) mem mode count type offset).map (g, ·)

end

end GLContext

end Anbox.Gles2
