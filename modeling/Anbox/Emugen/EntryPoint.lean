import Anbox.Framework.Codec

namespace Anbox.Emugen

open Anbox.Framework

/-- From the client's point of view. -/
inductive PointerDir where
  | POINTER_OUT
  | POINTER_IN
  | POINTER_INOUT
  deriving DecidableEq

/-- What a caller passes: a value's bytes, or the memory a pointer points to, `none` for NULL. -/
inductive Arg where
  | value (bytes : List UInt8)
  | pointer (memory : Option (List UInt8))
  deriving DecidableEq

def Arg.bytes : Arg → List UInt8
  | value bytes => bytes
  | pointer _ => []

def Arg.memory : Arg → Option (List UInt8)
  | value _ => none
  | pointer memory => memory

/-- The expressions of the specification see the arguments and what else the client has, `γ`. -/
structure Pointer (γ : Type*) where
  lenExpression : γ → List Arg → Nat
  pointerDir : PointerDir
  nullAllowed : Bool
  isLarge : Bool
  packExpression : Option (γ → List Arg → List UInt8)

inductive Var (γ : Type*) where
  | value (bytes : Nat)
  | pointer (p : Pointer γ)

inductive Retval where
  | void
  | pointer
  | value (bytes : Nat)
  deriving DecidableEq

def Retval.isValue : Retval → Bool
  | value _ => true
  | _ => false

def Retval.sizes : Retval → List Nat
  | value bytes => [bytes]
  | _ => []

structure EntryPoint (γ : Type*) where
  name : String
  retval : Retval
  vars : List (Var γ)
  unsupported : Bool
  flushOnEncode : Bool

variable {γ : Type*}

def Var.isOut : Var γ → Bool
  | .value _ => false
  | .pointer p => p.pointerDir = .POINTER_OUT

def Var.isLarge : Var γ → Bool
  | .value _ => false
  | .pointer p => p.isLarge

/-! The parameters of one call. -/

/-- A pointer with its `__size_` variable; the memory is as packed. -/
structure PointerField where
  pointerDir : PointerDir
  nullAllowed : Bool
  isLarge : Bool
  size : Nat
  memory : Option (List UInt8)
  deriving DecidableEq

inductive Field where
  | value (bytes : List UInt8)
  | pointer (p : PointerField)
  deriving DecidableEq

/-- `const unsigned int __size_`. -/
def Pointer.size (p : Pointer γ) (self : γ) (args : List Arg) (memory : Option (List UInt8)) : Nat :=
  if p.nullAllowed ∧ memory = none then 0 else p.lenExpression self args % 2^32

def Pointer.packed (p : Pointer γ) (self : γ) (args : List Arg) (memory : Option (List UInt8)) :
    Option (List UInt8) :=
  match p.packExpression with
  | none => memory
  | some pack => memory.map fun _ => pack self args

def Var.field (self : γ) (args : List Arg) : Var γ → Arg → Field
  | .value _, a => .value a.bytes
  | .pointer p, a =>
    .pointer ⟨p.pointerDir, p.nullAllowed, p.isLarge, p.size self args a.memory,
      p.packed self args a.memory⟩

def EntryPoint.fields (e : EntryPoint γ) (self : γ) (args : List Arg) : List Field :=
  List.zipWith (Var.field self args) e.vars args

namespace Field

/-- What is packed behind the size. -/
def data (p : PointerField) : List UInt8 := (p.memory.getD []).take p.size

/-- `writeVarEncodingExpression` -/
def encoding : Field → List UInt8
  | value bytes => bytes
  | pointer p => little 4 p.size ++ if p.pointerDir = .POINTER_OUT then [] else data p

/-- `writeVarEncodingSize`, with the four bytes for a pointer's size -/
def encodingSize : Field → Nat
  | value bytes => bytes.length
  | pointer p => p.size + 4

def isLarge : Field → Bool
  | value _ => false
  | pointer p => p.isLarge

def isOut : Field → Bool
  | value _ => false
  | pointer p => p.pointerDir = .POINTER_OUT

/-- How many of the bytes that are allocated for a field are not written to. -/
def unwritten : Field → Nat
  | value _ => 0
  | pointer p => if p.pointerDir = .POINTER_OUT then p.size else 0

/-- What the host's function is called with: NULL is `none`, and of an output there is its size. -/
inductive Received where
  | value (bytes : List UInt8)
  | input (memory : Option (List UInt8))
  | output (size : Option Nat)
  deriving DecidableEq

def nullIf (nullAllowed : Bool) (size : Nat) {α : Type*} (a : α) : Option α :=
  if nullAllowed ∧ size = 0 then none else some a

def received : Field → Received
  | value bytes => .value bytes
  | pointer p =>
    if p.pointerDir = .POINTER_OUT then .output (nullIf p.nullAllowed p.size p.size)
    else .input (nullIf p.nullAllowed p.size (data p))

end Field

/-- The arguments are of the types of the parameters: a pointer that is read from points to as many
bytes as are sent, and where bytes are to be written it is not NULL. -/
inductive Field.Of : Var γ → Field → Prop where
  | value (bytes : List UInt8) : Field.Of (.value bytes.length) (.value bytes)
  | pointer {p : Pointer γ} {f : PointerField} (dir : f.pointerDir = p.pointerDir)
      (null : f.nullAllowed = p.nullAllowed) (large : f.isLarge = p.isLarge)
      (size : f.size < 2^32)
      (memory : f.pointerDir ≠ .POINTER_OUT → f.size ≤ (f.memory.getD []).length)
      (written : f.memory = none → f.size = 0) :
      Field.Of (.pointer p) (.pointer f)

variable {f : Field} {v : Var γ} {vs : List (Var γ)} {fs : List Field}

theorem Field.length_data {p : PointerField} (enough : p.size ≤ (p.memory.getD []).length) :
    (Field.data p).length = p.size := by
  rw [Field.data, List.length_take, Nat.min_eq_left enough]

theorem Field.Of.isOut (h : Field.Of v f) : f.isOut = v.isOut := by
  cases h with
  | value bytes => rfl
  | pointer dir => rw [Field.isOut, Var.isOut, dir]

theorem Field.Of.isLarge (h : Field.Of v f) : f.isLarge = v.isLarge := by
  cases h with
  | value bytes => rfl
  | pointer dir null large => exact large

theorem Field.Of.length_encoding (h : Field.Of v f) :
    f.encoding.length + f.unwritten = f.encodingSize := by
  cases h with
  | value bytes => rfl
  | pointer dir null large size memory written =>
    rw [Field.encoding, Field.unwritten, Field.encodingSize, List.length_append, length_little]
    split_ifs with out
    · rw [List.length_nil, Nat.add_zero, Nat.add_comm]
    · rw [Field.length_data (memory out), Nat.add_zero, Nat.add_comm]

/-! Reading them from a packet. -/

/-- `Unpack<T, uintN_t>(ptr + varoffset)`; `none` where the bytes that were received end before. -/
def Var.parse : Var γ → List UInt8 → Option (Field.Received × List UInt8)
  | .value bytes, b => (splitFront bytes b).map fun q => (.value q.1, q.2)
  | .pointer p, b =>
    (splitFront 4 b).bind fun q =>
      let size := ofLittle q.1
      if p.pointerDir = .POINTER_OUT then
        some (.output (Field.nullIf p.nullAllowed size size), q.2)
      else (splitFront size q.2).map fun r =>
        (.input (Field.nullIf p.nullAllowed size r.1), r.2)

theorem Field.Of.parse_encoding (h : Field.Of v f) (tail : List UInt8) :
    v.parse (f.encoding ++ tail) = some (f.received, tail) := by
  cases h with
  | value bytes => rw [Field.encoding, Var.parse, splitFront_append rfl]; rfl
  | @pointer p f dir null large size memory written =>
    have read : ofLittle (little 4 f.size) = f.size := by
      rw [ofLittle_little]
      exact Nat.mod_eq_of_lt size
    rw [Field.encoding, Var.parse, List.append_assoc, splitFront_append (length_little 4 f.size),
      Option.bind_some, Field.received, ← dir, ← null]
    dsimp only
    rw [read]
    split_ifs with out
    · rfl
    · rw [splitFront_append (Field.length_data (memory out))]
      rfl

def EntryPoint.parse : List (Var γ) → List UInt8 → Option (List Field.Received × List UInt8)
  | [], b => some ([], b)
  | v :: vs, b => (v.parse b).bind fun q => (parse vs q.2).map fun r => (q.1 :: r.1, r.2)

/-- What was sent for the parameters is what is received for them. -/
theorem parse_encoding (h : List.Forall₂ Field.Of vs fs) (tail : List UInt8) :
    EntryPoint.parse vs (fs.flatMap Field.encoding ++ tail) = some (fs.map Field.received, tail) := by
  induction h with
  | nil => rfl
  | cons first rest ih =>
    rw [EntryPoint.parse, List.flatMap_cons, List.append_assoc, first.parse_encoding,
      Option.bind_some, ih]
    rfl

end Anbox.Emugen
