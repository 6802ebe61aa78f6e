import Mathlib.Data.List.Basic

namespace Anbox.Rpc

/-- Seven bits to a byte, the low ones first, at most `k` bytes. -/
def varintBytes : Nat → Nat → List UInt8
  | 0, _ => []
  | k+1, n =>
    if n < 128 then [UInt8.ofNat n] else UInt8.ofNat (n % 128 + 128) :: varintBytes k (n / 128)

def varint (n : Nat) : List UInt8 := varintBytes 10 n

/-- A field whose value carries its length. -/
def lengthDelimited (tag : UInt8) (bytes : List UInt8) : List UInt8 :=
  tag :: varint bytes.length ++ bytes

/-- `message Invocation` of anbox_rpc.proto. -/
structure Invocation where
  id : UInt32
  methodName : String
  parameters : List UInt8
  protocolVersion : UInt32
  deriving DecidableEq

/-- `message Result` of anbox_rpc.proto. -/
structure Result where
  id : Option UInt32
  response : Option (List UInt8)
  events : List (List UInt8)
  deriving DecidableEq

def Invocation.serialize (m : Invocation) : List UInt8 :=
  0x08 :: varint m.id.toNat ++ lengthDelimited 0x12 m.methodName.toUTF8.toList ++
    lengthDelimited 0x1a m.parameters ++ 0x20 :: varint m.protocolVersion.toNat

def Result.serialize (m : Result) : List UInt8 :=
  (m.id.elim [] fun id => 0x08 :: varint id.toNat) ++
    (m.response.elim [] fun response => lengthDelimited 0x12 response) ++
    m.events.flatMap fun event => lengthDelimited 0x1a event

theorem varintBytes_length_le (k n : Nat) : (varintBytes k n).length ≤ k := by
  induction k generalizing n with
  | zero => exact Nat.le_refl 0
  | succ k ih =>
    rw [varintBytes]
    split_ifs
    · simp
    · simpa using ih (n / 128)

theorem lengthDelimited_length (tag : UInt8) (bytes : List UInt8) :
    bytes.length < (lengthDelimited tag bytes).length := by
  simp only [lengthDelimited, List.cons_append, List.length_cons, List.length_append]
  omega

end Anbox.Rpc
