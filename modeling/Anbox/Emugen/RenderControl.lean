import Anbox.Emugen.Linearization

namespace Anbox.Emugen

open Anbox.Framework

variable {γ : Type*}

/-! The specification of `renderControl`. -/

/-- The value of a parameter of four bytes. -/
def argument (args : List Arg) (i : Nat) : Nat := ofLittle (args.getD i (.value [])).bytes

def glUtilsPixelBitSize (format type : Nat) : Nat :=
  let componentsize := if type ∈ [0x1400, 0x1401] then 8 else 0
  let pixelsize :=
    if type ∈ [0x1402, 0x1403, 0x8363, 0x8033, 0x8034, 0x8D62, 0x8057, 0x8056] then 16
    else if type ∈ [0x1404, 0x1405, 0x1406, 0x140C, 0x84FA] then 32
    else 0
  let components :=
    if format ∈ [0x1906, 0x1909, 0x1902, 0x84F9] then 1
    else if format = 0x190A then 2
    else if format = 0x1907 then 3
    else if format ∈ [0x1908, 0x80E1] then 4
    else 0
  if pixelsize = 0 then components * componentsize else pixelsize

/-- `(((glUtilsPixelBitSize(format, type) * width) >> 3) * height)`, on `int` -/
def pixelsLen (_ : γ) (args : List Arg) : Nat :=
  let bits := Int32.ofNat (glUtilsPixelBitSize (argument args 5) (argument args 6))
  let width := Int32.ofNat (argument args 3)
  let height := Int32.ofNat (argument args 4)
  (((bits * width) >>> 3) * height).toUInt32.toNat

/-- `strlen(name) + 1` -/
def nameLen (_ : γ) (args : List Arg) : Nat :=
  ((((args.getD 0 (.value [])).memory.getD []).takeWhile fun b => b != 0).length) + 1

def u32 : Var γ := .value 4

def out (len : γ → List Arg → Nat) (nullAllowed : Bool) : Var γ :=
  .pointer ⟨len, .POINTER_OUT, nullAllowed, false, none⟩

def in_ (len : γ → List Arg → Nat) (isLarge : Bool) : Var γ :=
  .pointer ⟨len, .POINTER_IN, false, isLarge, none⟩

def rc (name : String) (retval : Retval) (vars : List (Var γ)) : EntryPoint γ :=
  ⟨name, retval, vars, false, false⟩

def four (_ : γ) (_ : List Arg) : Nat := 4

def sizeIn (i : Nat) (_ : γ) (args : List Arg) : Nat := argument args i

def renderControl : Api γ where
  baseOpcode := 10000
  entries := [
    rc "rcGetRendererVersion" (.value 4) [],
    rc "rcGetEGLVersion" (.value 4) [out four false, out four false],
    rc "rcQueryEGLString" (.value 4) [u32, out (sizeIn 2) false, u32],
    rc "rcGetGLString" (.value 4) [u32, out (sizeIn 2) false, u32],
    rc "rcGetNumConfigs" (.value 4) [out four false],
    rc "rcGetConfigs" (.value 4) [u32, out (sizeIn 0) false],
    rc "rcChooseConfig" (.value 4)
      [in_ (sizeIn 1) false, u32, out (fun _ args => argument args 3 * 4) true, u32],
    rc "rcGetFBParam" (.value 4) [u32],
    rc "rcCreateContext" (.value 4) [u32, u32, u32],
    rc "rcDestroyContext" .void [u32],
    rc "rcCreateWindowSurface" (.value 4) [u32, u32, u32],
    rc "rcDestroyWindowSurface" .void [u32],
    rc "rcCreateColorBuffer" (.value 4) [u32, u32, u32],
    rc "rcOpenColorBuffer" .void [u32],
    { rc "rcCloseColorBuffer" .void [u32] with flushOnEncode := true },
    rc "rcSetWindowColorBuffer" .void [u32, u32],
    rc "rcFlushWindowColorBuffer" (.value 4) [u32],
    rc "rcMakeCurrent" (.value 4) [u32, u32, u32],
    rc "rcFBPost" .void [u32],
    rc "rcFBSetSwapInterval" .void [u32],
    rc "rcBindTexture" .void [u32],
    rc "rcBindRenderbuffer" .void [u32],
    rc "rcColorBufferCacheFlush" (.value 4) [u32, u32, u32],
    rc "rcReadColorBuffer" .void [u32, u32, u32, u32, u32, u32, u32, out pixelsLen false],
    rc "rcUpdateColorBuffer" (.value 4) [u32, u32, u32, u32, u32, u32, u32, in_ pixelsLen true],
    rc "rcOpenColorBuffer2" (.value 4) [u32],
    rc "rcCreateClientImage" (.value 4) [u32, u32, u32],
    rc "rcDestroyClientImage" (.value 4) [u32],
    rc "rcSelectChecksumCalculator" .void [u32, u32],
    rc "rcGetNumDisplays" (.value 4) [],
    rc "rcGetDisplayWidth" (.value 4) [u32],
    rc "rcGetDisplayHeight" (.value 4) [u32],
    rc "rcGetDisplayDpiX" (.value 4) [u32],
    rc "rcGetDisplayDpiY" (.value 4) [u32],
    rc "rcGetDisplayVsyncPeriod" (.value 4) [u32],
    rc "rcPostLayer" .void
      [in_ nameLen false, u32, u32, u32, u32, u32, u32, u32, u32, u32, u32],
    rc "rcPostAllLayersDone" .void []]

/-- The conditions on an entry point, to be run over a table. -/
def EntryPoint.sound (e : EntryPoint γ) : Bool :=
  (e.vars.all fun v => match v with
    | .value _ => true
    | .pointer p => p.pointerDir != .POINTER_INOUT) &&
  !(e.vars.any Var.isOut && (e.vars.any Var.isLarge || e.retval == .pointer))

theorem sound_of {e : EntryPoint γ} (h : e.sound = true) : e.Sound := by
  rw [EntryPoint.sound, Bool.and_eq_true, List.all_eq_true, Bool.not_eq_true'] at h
  obtain ⟨inout, mixed⟩ := h
  refine ⟨fun p hp => by simpa using inout _ hp, ?_, ?_⟩
  · intro large
    by_contra some
    rw [large, Bool.true_or, Bool.and_true] at mixed
    exact some mixed
  · intro pointer
    by_contra some
    rw [pointer, beq_self_eq_true, Bool.or_true, Bool.and_true] at mixed
    exact some mixed

/-- Tables that are numbered one behind the other have no opcode in common. -/
theorem find_apart {a b : Api γ} (behind : a.baseOpcode + a.entries.length ≤ b.baseOpcode)
    (opcode : Nat) : a.find opcode = none ∨ b.find opcode = none := by
  by_cases low : opcode < b.baseOpcode
  · exact Or.inr (if_neg (Nat.not_le_of_lt low))
  · left
    rw [Api.find]
    split_ifs
    · exact List.getElem?_eq_none (by omega)
    · rfl

/-- The decoders of a render thread: those of GLES come first, and their tables are numbered from 1024
and from 2048 on. -/
def protocol (version : UInt32) (known : version = 0 ∨ version = 1) (gles1 gles2 : Api γ)
    (first : gles1.baseOpcode = 1024) (size1 : gles1.entries.length ≤ 1024)
    (second : gles2.baseOpcode = 2048) (size2 : gles2.entries.length ≤ 7952)
    (sound : ∀ a ∈ [gles1, gles2], ∀ e ∈ a.entries, e.Sound) : Protocol γ where
  version := version
  known := known
  apis := [gles1, gles2, renderControl]
  sound := by
    have last : ∀ e ∈ (renderControl : Api γ).entries, e.Sound := by
      have all : (renderControl : Api γ).entries.all EntryPoint.sound = true := rfl
      exact fun e he => sound_of (List.all_eq_true.mp all e he)
    obtain ⟨one, two⟩ := List.forall_mem_cons.mp sound
    exact List.forall_mem_cons.mpr ⟨one, List.forall_mem_cons.mpr
      ⟨two gles2 (List.mem_singleton_self _), List.forall_mem_singleton.mpr last⟩⟩
  small := by
    have base : (renderControl : Api γ).baseOpcode = 10000 := rfl
    have length : (renderControl : Api γ).entries.length = 37 := rfl
    intro a ha
    simp only [List.mem_cons, List.not_mem_nil, or_false] at ha
    obtain rfl | rfl | rfl := ha
    · omega
    · omega
    · rw [base, length]
      decide
  distinct := by
    have base : (renderControl : Api γ).baseOpcode = 10000 := rfl
    refine List.pairwise_cons.mpr ⟨?_, List.pairwise_cons.mpr ⟨?_, List.pairwise_singleton _ _⟩⟩
    · intro b hb
      simp only [List.mem_cons, List.not_mem_nil, or_false] at hb
      obtain rfl | rfl := hb
      · exact find_apart (by omega)
      · exact find_apart (by omega)
    · intro b hb
      obtain rfl := List.mem_singleton.mp hb
      exact find_apart (by omega)

/-! Two connections, with checksums; what one of them sends is read in pieces. -/

def smallProtocol : Protocol Unit :=
  protocol 1 (Or.inr rfl) ⟨1024, []⟩ ⟨2048, []⟩ rfl (by decide) rfl (by decide) (by simp)

/-- A host that answers with how many calls the calling thread has made. -/
def counter (thread : Bool) : Host Unit (Bool → Nat) where
  exec s e rs := ((e.tmpSizes rs).map fun n => List.replicate n (UInt8.ofNat (s thread)),
    Function.update s thread (s thread + 1))
  tmpSizes s e rs := by
    rw [List.map_map]
    exact List.map_id'' (fun n => List.length_replicate) _

def getEglVersion : Call smallProtocol where
  api := renderControl
  mem := List.mem_cons_of_mem _ (List.mem_cons_of_mem _ List.mem_cons_self)
  opcode := 10001
  entry := rc "rcGetEGLVersion" (.value 4) [out four false, out four false]
  find := rfl
  version := by decide
  self := ()
  args := [.pointer (some [0, 0, 0, 0]), .pointer (some [0, 0, 0, 0])]
  fields := .cons (.pointer rfl rfl rfl (by decide) nofun nofun)
    (.cons (.pointer rfl rfl rfl (by decide) nofun nofun) .nil)
  small := by decide

def fbPost : Call smallProtocol where
  api := renderControl
  mem := List.mem_cons_of_mem _ (List.mem_cons_of_mem _ List.mem_cons_self)
  opcode := 10018
  entry := rc "rcFBPost" .void [u32]
  find := rfl
  version := by decide
  self := ()
  args := [.value [7, 0, 0, 0]]
  fields := .cons (.value [7, 0, 0, 0]) .nil
  small := by decide

def asked : List (Action smallProtocol Bool) :=
  [.call true fbPost fun _ => 0, .call true getEglVersion fun _ => 0,
   .call false getEglVersion fun _ => 0]

def decoded : List (Action smallProtocol Bool) :=
  [.deliver true 5, .pass true, .deliver true 15, .pass true, .pass true, .deliver true 28,
   .deliver false 32, .pass false, .pass true, .deliver true 4, .pass true]

theorem session_linearizable : ∃ s,
    run (step counter smallProtocol) (Remote.init 1 64 fun _ => 0) (asked ++ decoded ++ [.readback true]) =
      some s ∧ s.fault = none ∧ Replays counter (fun _ => 0) s.log s.host ∧
    (callsOf true s.log).map Executed.toRequest <+: (s.conn true).issued := by
  have runs : (run (step counter smallProtocol) (Remote.init 1 64 fun _ => 0)
      (asked ++ decoded ++ [.readback true])).isSome = true := by decide +kernel
  obtain ⟨s, hs⟩ := Option.isSome_iff_exists.mp runs
  obtain ⟨sound, replays, calls⟩ := remoting_linearizable (P := smallProtocol) hs
  exact ⟨s, hs, sound, replays, (calls true).1⟩

theorem session_answer_comes : ∃ s w t,
    run (step counter smallProtocol) (Remote.init 1 64 fun _ => 0) asked = some s ∧
    (s.conn true).waiting = some w ∧ run (step counter smallProtocol) s decoded = some t ∧
    (t.conn true).waiting = some w ∧
    ∃ a : Action smallProtocol Bool, a.conn = true ∧ (step counter smallProtocol t a).isSome = true := by
  have runs : ((run (step counter smallProtocol) (Remote.init 1 64 fun _ => 0) asked).bind fun s =>
      (s.conn true).waiting.bind fun _ => run (step counter smallProtocol) s decoded).isSome = true := by
    decide +kernel
  obtain ⟨t, ht⟩ := Option.isSome_iff_exists.mp runs
  obtain ⟨s, hs, later⟩ := Option.bind_eq_some_iff.mp ht
  obtain ⟨w, waiting, ht⟩ := Option.bind_eq_some_iff.mp later
  have unread : ∀ a ∈ decoded, a ≠ .readback true := by simp [decoded]
  obtain ⟨still, -, next⟩ := answer_comes (P := smallProtocol) hs waiting ht unread
  exact ⟨s, w, t, hs, waiting, ht, still, next⟩

end Anbox.Emugen
