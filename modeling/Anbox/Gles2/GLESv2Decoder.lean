import Anbox.Gles2.GL2Encoder

namespace Anbox.Gles2

open Anbox.Framework

/-- The host: its GL context, and what `GLDecoderContextData` keeps for the arrays. -/
structure GLESv2Decoder where
  gl : GLContext
  mPointerData : Nat → List UInt8

namespace GLESv2Decoder

def kMaxVertexAttributes : Nat := 64

def initial : GLESv2Decoder := ⟨.initial, fun _ => []⟩

/-- `pointerData`, with an address space for each location that starts where its data does. -/
def client (ctx : GLESv2Decoder) (loc : Nat) : ByteMemory :=
  if loc < kMaxVertexAttributes then cells ((ctx.mPointerData loc).map some) else fun _ => none

def storePointerData (ctx : GLESv2Decoder) (loc : Nat) (data : List UInt8) : GLESv2Decoder :=
  if loc < kMaxVertexAttributes then
    { ctx with mPointerData := Function.update ctx.mPointerData loc data }
  else ctx

/-- The stride of the data is always zero when it comes out of the codec. -/
def sGlVertexAttribPointerData (maxIndex : Nat) (ctx : GLESv2Decoder) (indx : GLuint) (size : Int)
    (type : GLenum) (normalized : Bool) (data : List UInt8) : GLESv2Decoder :=
  let ctx := ctx.storePointerData indx.toNat data
  { ctx with gl := ctx.gl.vertexAttribPointer maxIndex indx size type normalized 0 0 }

def decode (maxIndex : Nat) (ctx : GLESv2Decoder) : Command → Option (GLESv2Decoder × List Drawn)
  | .glBindBuffer target id => some ({ ctx with gl := ctx.gl.bindBuffer target id }, [])
  | .glBufferData target size data usage =>
    (ctx.gl.bufferData target size usage
      (some (data.elim (List.replicate size.toNat none) (List.map some)))).map fun gl =>
        ({ ctx with gl := gl }, [])
  | .glBufferSubData target offset size data =>
    (ctx.gl.bufferSubData target offset size (some data)).map fun gl => ({ ctx with gl := gl }, [])
  | .glDeleteBuffer id => some ({ ctx with gl := ctx.gl.deleteBuffer id }, [])
  | .glEnableVertexAttribArray index =>
    some ({ ctx with gl := ctx.gl.enableVertexAttribArray maxIndex index true }, [])
  | .glDisableVertexAttribArray index =>
    some ({ ctx with gl := ctx.gl.enableVertexAttribArray maxIndex index false }, [])
  | .glVertexAttribPointerData indx size type normalized _ data =>
    some (ctx.sGlVertexAttribPointerData maxIndex indx size type normalized data, [])
  | .glVertexAttribPointerOffset indx size type normalized stride offset =>
    some ({ ctx with
      gl := ctx.gl.vertexAttribPointer maxIndex indx size type normalized stride offset.toNat }, [])
  | .glDrawArrays mode first count =>
    (ctx.gl.drawArrays maxIndex ctx.client mode first count).map (ctx, ·)
  | .glDrawElementsData mode count type data =>
    (ctx.gl.drawElements maxIndex ctx.client (cells (data.map some)) mode count type 0).map (ctx, ·)
  | .glDrawElementsOffset mode count type offset =>
    (ctx.gl.drawElements maxIndex ctx.client (fun _ => none) mode count type offset.toNat).map (ctx, ·)

/-- Commands decoded in their order, and all they draw. -/
def decodeAll (maxIndex : Nat) : GLESv2Decoder → List Command → Option (GLESv2Decoder × List Drawn)
  | ctx, [] => some (ctx, [])
  | ctx, c :: cs =>
    (ctx.decode maxIndex c).bind fun p =>
      (decodeAll maxIndex p.1 cs).map fun q => (q.1, p.2 ++ q.2)

end GLESv2Decoder

end Anbox.Gles2
