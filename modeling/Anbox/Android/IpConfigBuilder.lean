import Anbox.Common.BinaryWriter
import Anbox.Common.Utils
import Mathlib.Algebra.GroupWithZero.Nat

namespace Anbox.Android

open Anbox.Common
open Anbox.Common.BinaryWriter hiding write
open Anbox.Framework
open Anbox.Utils (text)

namespace IpConfigBuilder

def assignmentKey : List UInt8 := text "ipAssignment"
def linkAddressKey : List UInt8 := text "linkAddress"
def gatewayKey : List UInt8 := text "gateway"
def dnsKey : List UInt8 := text "dns"
def idKey : List UInt8 := text "id"
def eosKey : List UInt8 := text "eos"

def isDefaultGateway : UInt32 := 0
def gatewayIsPresent : UInt32 := 1

inductive Version where
  | Version1
  | Version2
  deriving DecidableEq

def Version.number : Version → UInt32
  | Version1 => 1
  | Version2 => 2

inductive Assignment where
  | Static
  | DHCP
  deriving DecidableEq

def assignmentToString : Assignment → List UInt8
  | .Static => text "STATIC"
  | .DHCP => text "DHCP"

end IpConfigBuilder

structure IpConfigBuilder where
  version_ : IpConfigBuilder.Version
  assignment_ : IpConfigBuilder.Assignment
  linkAddress : List UInt8
  linkPrefixLength : UInt32
  gateway_ : List UInt8
  dnsServers_ : List (List UInt8)
  id_ : UInt32

namespace IpConfigBuilder

def write (builder : IpConfigBuilder) : EStateM String BinaryWriter Nat := do
  setByteOrder .Big
  writeUint32 builder.version_.number
  writeStringWithSize assignmentKey
  writeStringWithSize (assignmentToString builder.assignment_)
  writeStringWithSize linkAddressKey
  writeStringWithSize builder.linkAddress
  writeUint32 builder.linkPrefixLength
  writeStringWithSize gatewayKey
  writeUint32 isDefaultGateway
  writeUint32 gatewayIsPresent
  writeStringWithSize builder.gateway_
  writeStringWithSize dnsKey
  builder.dnsServers_.forM writeStringWithSize
  writeStringWithSize idKey
  writeUint32 builder.id_
  writeStringWithSize eosKey
  return (← get).written.length

/-! What is wanted: the reader of Android, for the second version of the format. -/

/-- What a reader has got so far. -/
structure IpConfiguration where
  ipAssignment : Assignment
  linkAddress : Option (List UInt8 × UInt32)
  gateway : Option (List UInt8)
  dnsServers : List (List UInt8)
  id : UInt32
  deriving DecidableEq

/-- What is taken when nothing is read: DHCP, and -1 for the id. -/
def IpConfiguration.initial : IpConfiguration := ⟨.DHCP, none, none, [], 0xffffffff⟩

def readInt (b : List UInt8) : Option (UInt32 × List UInt8) :=
  (splitFront 4 b).map fun p => (UInt32.ofNat (Order.number .Big p.1), p.2)

def readUtf (b : List UInt8) : Option (List UInt8 × List UInt8) :=
  (splitFront 2 b).bind fun p => splitFront (Order.number .Big p.1) p.2

/-- A text, and a number behind it. -/
def readAddress (b : List UInt8) : Option ((List UInt8 × UInt32) × List UInt8) :=
  (readUtf b).bind fun p => (readInt p.2).map fun q => ((p.1, q.1), q.2)

/-- What is there when the number in front of it is one. -/
def readOptional {α : Type} (read : List UInt8 → Option (α × List UInt8)) (b : List UInt8) :
    Option (Option α × List UInt8) :=
  (readInt b).bind fun p =>
    if p.1 = 1 then (read p.2).map fun q => (some q.1, q.2) else some (none, p.2)

/-- The value of a key. A second address does not count, nor does a gateway that is not the default one;
whether unknown keys are passed over is left open. -/
def readValue (ignores_unknown : Bool) (key : List UInt8) (c : IpConfiguration) (b : List UInt8) :
    Option (IpConfiguration × List UInt8) :=
  if key = idKey then (readInt b).map fun p => ({ c with id := p.1 }, p.2)
  else if key = assignmentKey then
    (readUtf b).map fun p =>
      if p.1 = text "STATIC" then ({ c with ipAssignment := .Static }, p.2)
      else if p.1 = text "DHCP" then ({ c with ipAssignment := .DHCP }, p.2)
      else (c, p.2)
  else if key = linkAddressKey then
    (readAddress b).map fun p => ({ c with linkAddress := c.linkAddress.or (some p.1) }, p.2)
  else if key = gatewayKey then
    (readOptional readAddress b).bind fun dest =>
      (readOptional readUtf dest.2).map fun p =>
        ({ c with gateway := if dest.1.isNone then c.gateway.or p.1 else c.gateway }, p.2)
  else if key = dnsKey then
    (readUtf b).map fun p => ({ c with dnsServers := c.dnsServers ++ [p.1] }, p.2)
  else if ignores_unknown then some (c, b)
  else none

/-- Keys and their values up to the last key, at most so many. -/
def readEntries (ignores_unknown : Bool) : Nat → IpConfiguration → List UInt8 →
    Option (IpConfiguration × List UInt8)
  | 0, _, _ => none
  | n + 1, c, b =>
    (readUtf b).bind fun p =>
      if p.1 = eosKey then some (c, p.2)
      else (readValue ignores_unknown p.1 c p.2).bind fun q => readEntries ignores_unknown n q.1 q.2

/-- The configuration, and what is behind it. A key takes two bytes at least, so that there are not more
of them than bytes. -/
def readConfiguration (ignores_unknown : Bool) (b : List UInt8) :
    Option (IpConfiguration × List UInt8) :=
  (readInt b).bind fun p =>
    if p.1 = 2 then readEntries ignores_unknown b.length .initial p.2 else none

def configuration (builder : IpConfigBuilder) : IpConfiguration where
  ipAssignment := builder.assignment_
  linkAddress := some (builder.linkAddress, builder.linkPrefixLength)
  gateway := some builder.gateway_
  dnsServers := builder.dnsServers_
  id := builder.id_

/-- One server, no text that the sizes cannot tell, and the version that is read. -/
def Readable (builder : IpConfigBuilder) : Prop :=
  builder.version_ = .Version2 ∧ builder.dnsServers_.length = 1 ∧
    ∀ str ∈ builder.linkAddress :: builder.gateway_ :: builder.dnsServers_, str.length < 2^16

/-! What is written. -/

/-- The values, in order. -/
def values (builder : IpConfigBuilder) : List Value :=
  [.uint32 builder.version_.number,
    .string assignmentKey, .string (assignmentToString builder.assignment_),
    .string linkAddressKey, .string builder.linkAddress, .uint32 builder.linkPrefixLength,
    .string gatewayKey, .uint32 isDefaultGateway, .uint32 gatewayIsPresent,
    .string builder.gateway_, .string dnsKey] ++
    builder.dnsServers_.map .string ++ [.string idKey, .uint32 builder.id_, .string eosKey]

def bytes (vs : List Value) : List UInt8 := vs.flatMap (Order.encode .Big)

theorem write_eq_forM (builder : IpConfigBuilder) : builder.write = do
    setByteOrder .Big
    builder.values.forM writeValue
    return (← get).written.length := by
  simp [write, values, writeValue]

theorem write_ok {builder : IpConfigBuilder} {w w' : BinaryWriter} {size : Nat}
    (h : builder.write w = .ok size w') :
    w'.written = w.written ++ bytes builder.values ∧ size = w'.written.length := by
  rw [write_eq_forM] at h
  obtain ⟨⟨⟩, u, order, later⟩ := bind_eq_ok h
  cases order
  obtain ⟨⟨⟩, v, written, last⟩ := bind_eq_ok later
  cases last
  exact ⟨forM_writeValue_ok written, rfl⟩

/-- A buffer that is large enough is all that it takes. -/
theorem write_of_room (builder : IpConfigBuilder) {w : BinaryWriter}
    (room : (bytes builder.values).length ≤ w.room.length) :
    ∃ size w', builder.write w = .ok size w' := by
  obtain ⟨w', written⟩ := forM_writeValue_of_room builder.values
    (w := { w with byteOrder_ := .Big }) room
  refine ⟨w'.written.length, w', ?_⟩
  rw [write_eq_forM]
  have rest : (builder.values.forM writeValue >>= fun _ => return (← get).written.length)
      { w with byteOrder_ := .Big } = .ok w'.written.length w' := by
    simp only [bind, EStateM.bind, written]
    rfl
  exact rest

/-! Reading. -/

variable {b rest : List UInt8}

theorem readInt_encode (n : UInt32) (tail : List UInt8) :
    readInt (Order.encode .Big (.uint32 n) ++ tail) = some (n, tail) := by
  have bound : n.toNat < 256^4 := n.toNat_lt
  rw [readInt, Order.encode, splitFront_append (length_bytes _ _ _), Option.map_some, number_bytes,
    Nat.mod_eq_of_lt bound, UInt32.ofNat_toNat]

theorem readUtf_encode {str : List UInt8} (short : str.length < 2^16) (tail : List UInt8) :
    readUtf (Order.encode .Big (.string str) ++ tail) = some (str, tail) := by
  have bound : str.length < 256^2 := short
  have size : (UInt16.ofNat str.length).toNat = str.length := UInt16.toNat_ofNat_of_lt' short
  rw [readUtf, Order.encode, List.append_assoc, splitFront_append (length_bytes _ _ _),
    Option.bind_some, number_bytes, size, Nat.mod_eq_of_lt bound, splitFront_append rfl]

theorem readInt_length {n : UInt32} (h : readInt b = some (n, rest)) :
    b.length = 4 + rest.length := by
  obtain ⟨⟨front, tail⟩, first, same⟩ := Option.map_eq_some_iff.mp h
  cases same
  exact length_splitFront first

/-- What is read as a text is as long as its prefix says, which is less than 16 bits can tell. -/
theorem readUtf_length {str : List UInt8} (h : readUtf b = some (str, rest)) :
    b.length = 2 + str.length + rest.length ∧ str.length < 2^16 := by
  obtain ⟨⟨front, tail⟩, first, second⟩ := Option.bind_eq_some_iff.mp h
  have front_length := length_of_splitFront first
  have size : str.length = Order.number .Big front := length_of_splitFront second
  have first_length := length_splitFront first
  have second_length : tail.length = Order.number .Big front + rest.length :=
    length_splitFront second
  have bound := number_lt .Big front
  rw [front_length] at bound
  exact ⟨by omega, size ▸ bound⟩

/-! The loop. -/

/-- What the servers of a configuration have taken up, with their keys. -/
def weight (servers : List (List UInt8)) : Nat := (servers.map fun server => 7 + server.length).sum

/-- No text is longer than a prefix can tell. -/
structure Short (c : IpConfiguration) : Prop where
  linkAddress : ∀ p ∈ c.linkAddress, p.1.length < 2^16
  gateway : ∀ str ∈ c.gateway, str.length < 2^16
  dnsServers : ∀ str ∈ c.dnsServers, str.length < 2^16

variable {ignores_unknown : Bool} {key : List UInt8} {c c' : IpConfiguration} {n : Nat}

theorem readAddress_spec {p : List UInt8 × UInt32} (h : readAddress b = some (p, rest)) :
    rest.length ≤ b.length ∧ p.1.length < 2^16 := by
  obtain ⟨⟨str, tail⟩, first, later⟩ := Option.bind_eq_some_iff.mp h
  obtain ⟨⟨n, tail'⟩, second, same⟩ := Option.map_eq_some_iff.mp later
  obtain ⟨rfl, rfl⟩ := Prod.mk.inj same
  obtain ⟨length, short⟩ := readUtf_length first
  have number : tail.length = 4 + tail'.length := readInt_length second
  exact ⟨by simp only; omega, short⟩

theorem readOptional_spec {α : Type} {read : List UInt8 → Option (α × List UInt8)} {x : Option α}
    (h : readOptional read b = some (x, rest)) :
    ∃ tail, tail.length ≤ b.length ∧
      ((x = none ∧ rest = tail) ∨ ∃ a, x = some a ∧ read tail = some (a, rest)) := by
  obtain ⟨⟨n, tail⟩, first, later⟩ := Option.bind_eq_some_iff.mp h
  have length := readInt_length first
  refine ⟨tail, by omega, ?_⟩
  simp only at later
  split_ifs at later
  · obtain ⟨⟨a, tail'⟩, second, same⟩ := Option.map_eq_some_iff.mp later
    obtain ⟨rfl, rfl⟩ := Prod.mk.inj same
    exact Or.inr ⟨a, rfl, second⟩
  · obtain ⟨rfl, rfl⟩ := Prod.mk.inj (Option.some.inj later)
    exact Or.inl ⟨rfl, rfl⟩

theorem mem_or {α : Type} {x y : Option α} {P : α → Prop} (hx : ∀ a ∈ x, P a) (hy : ∀ a ∈ y, P a) :
    ∀ a ∈ x.or y, P a := by
  cases x with
  | none => exact hy
  | some a => exact hx

/-- What a value can do: it takes bytes from the front, and only that of `dns` is a server more. -/
theorem readValue_spec (h : readValue ignores_unknown key c b = some (c', rest)) (short : Short c) :
    Short c' ∧ rest.length ≤ b.length ∧ ((key ≠ dnsKey ∧ c'.dnsServers = c.dnsServers) ∨
      ∃ str, key = dnsKey ∧ readUtf b = some (str, rest) ∧
        c'.dnsServers = c.dnsServers ++ [str]) := by
  unfold readValue at h
  split_ifs at h with is_id is_assignment is_link is_gateway is_dns ignored
  · obtain ⟨⟨n, tail⟩, first, same⟩ := Option.map_eq_some_iff.mp h
    have length := readInt_length first
    obtain ⟨rfl, rfl⟩ := Prod.mk.inj same
    have other : key ≠ dnsKey := is_id ▸ by decide
    exact ⟨⟨short.1, short.2, short.3⟩, by simp only; omega, Or.inl ⟨other, rfl⟩⟩
  · obtain ⟨⟨str, tail⟩, first, same⟩ := Option.map_eq_some_iff.mp h
    have length := (readUtf_length first).1
    have other : key ≠ dnsKey := is_assignment ▸ by decide
    simp only at same
    split_ifs at same
    · obtain ⟨rfl, rfl⟩ := Prod.mk.inj same
      exact ⟨⟨short.1, short.2, short.3⟩, by omega, Or.inl ⟨other, rfl⟩⟩
    · obtain ⟨rfl, rfl⟩ := Prod.mk.inj same
      exact ⟨⟨short.1, short.2, short.3⟩, by omega, Or.inl ⟨other, rfl⟩⟩
    · obtain ⟨rfl, rfl⟩ := Prod.mk.inj same
      exact ⟨short, by omega, Or.inl ⟨other, rfl⟩⟩
  · obtain ⟨⟨p, tail⟩, first, same⟩ := Option.map_eq_some_iff.mp h
    obtain ⟨length, few⟩ := readAddress_spec first
    obtain ⟨rfl, rfl⟩ := Prod.mk.inj same
    have other : key ≠ dnsKey := is_link ▸ by decide
    have address := mem_or short.linkAddress (y := some p) (P := fun q => q.1.length < 2^16)
      (by simpa using few)
    exact ⟨⟨address, short.2, short.3⟩, length, Or.inl ⟨other, rfl⟩⟩
  · obtain ⟨⟨dest, tail⟩, first, later⟩ := Option.bind_eq_some_iff.mp h
    obtain ⟨⟨x, tail'⟩, second, same⟩ := Option.map_eq_some_iff.mp later
    obtain ⟨rfl, rfl⟩ := Prod.mk.inj same
    have other : key ≠ dnsKey := is_gateway ▸ by decide
    have front : tail.length ≤ b.length := by
      obtain ⟨between, length, ⟨-, rfl⟩ | ⟨a, -, there⟩⟩ := readOptional_spec first
      · exact length
      · exact (readAddress_spec there).1.trans length
    have behind : tail'.length ≤ tail.length ∧ ∀ str ∈ x, str.length < 2^16 := by
      obtain ⟨between, length, ⟨rfl, rfl⟩ | ⟨str, rfl, there⟩⟩ := readOptional_spec (b := tail) second
      · exact ⟨length, nofun⟩
      · obtain ⟨sum, few⟩ := readUtf_length there
        exact ⟨by omega, by simpa using few⟩
    refine ⟨⟨short.1, ?_, short.3⟩, behind.1.trans front, Or.inl ⟨other, rfl⟩⟩
    simp only
    split_ifs
    · exact mem_or short.gateway behind.2
    · exact short.gateway
  · obtain ⟨⟨str, tail⟩, first, same⟩ := Option.map_eq_some_iff.mp h
    obtain ⟨length, few⟩ := readUtf_length first
    obtain ⟨rfl, rfl⟩ := Prod.mk.inj same
    refine ⟨⟨short.1, short.2, ?_⟩, by simp only; omega, Or.inr ⟨str, is_dns, first, rfl⟩⟩
    intro str' there
    obtain before | last := List.mem_append.mp there
    · exact short.dnsServers str' before
    · exact List.mem_singleton.mp last ▸ few
  · obtain ⟨rfl, rfl⟩ := Prod.mk.inj (Option.some.inj h)
    exact ⟨short, le_rfl, Or.inl ⟨is_dns, rfl⟩⟩

/-- What the loop does: servers are added, each for its bytes and those of a key, and at the end there
are those of the last key. -/
theorem readEntries_spec (h : readEntries ignores_unknown n c b = some (c', rest)) (short : Short c) :
    Short c' ∧ ∃ added, c'.dnsServers = c.dnsServers ++ added ∧
      weight added + 5 + rest.length ≤ b.length := by
  induction n generalizing c b with
  | zero => cases h
  | succ n ih =>
    rw [readEntries, Option.bind_eq_some_iff] at h
    obtain ⟨⟨key, tail⟩, first, later⟩ := h
    have length := (readUtf_length first).1
    simp only at later
    split_ifs at later with is_eos
    · obtain ⟨rfl, rfl⟩ := Prod.mk.inj (Option.some.inj later)
      subst is_eos
      have three : eosKey.length = 3 := rfl
      refine ⟨short, [], (List.append_nil _).symm, ?_⟩
      rw [weight, List.map_nil, List.sum_nil]
      omega
    · obtain ⟨⟨next, tail'⟩, value, entries⟩ := Option.bind_eq_some_iff.mp later
      obtain ⟨short', le, same | ⟨str, rfl, read, servers⟩⟩ := readValue_spec value short
      · obtain ⟨short_end, added, servers, bound⟩ := ih (b := tail') (c := next) entries short'
        refine ⟨short_end, added, by rw [servers, same.2], ?_⟩
        omega
      · obtain ⟨short_end, added, servers', bound⟩ := ih (b := tail') (c := next) entries short'
        have three : dnsKey.length = 3 := rfl
        have taken := (readUtf_length (b := tail) read).1
        refine ⟨short_end, str :: added, by rw [servers', servers, List.append_assoc]; rfl, ?_⟩
        have sum : weight (str :: added) = 7 + str.length + weight added := by
          rw [weight, List.map_cons, List.sum_cons, weight]
        rw [sum]
        omega

/-! The bytes of a builder. -/

def utf (str : List UInt8) : List UInt8 := Order.encode .Big (.string str)

def int (n : UInt32) : List UInt8 := Order.encode .Big (.uint32 n)

/-- What is behind the servers. -/
def lastBytes (builder : IpConfigBuilder) : List UInt8 :=
  utf idKey ++ (int builder.id_ ++ utf eosKey)

theorem bytes_values (builder : IpConfigBuilder) : bytes builder.values =
    int builder.version_.number ++ (utf assignmentKey ++ (utf (assignmentToString builder.assignment_) ++
      (utf linkAddressKey ++ (utf builder.linkAddress ++ (int builder.linkPrefixLength ++
        (utf gatewayKey ++ (int isDefaultGateway ++ (int gatewayIsPresent ++
          (utf builder.gateway_ ++ (utf dnsKey ++
            (builder.dnsServers_.flatMap utf ++ builder.lastBytes))))))))))) := by
  simp [bytes, values, lastBytes, utf, int, List.flatMap_map]
  rfl

theorem length_utf (str : List UInt8) : (utf str).length = 2 + str.length :=
  length_encode .Big (.string str)

theorem length_int (n : UInt32) : (int n).length = 4 := length_encode .Big (.uint32 n)

theorem length_lastBytes (builder : IpConfigBuilder) : builder.lastBytes.length = 13 := by
  rw [lastBytes, List.length_append, List.length_append, length_utf, length_int, length_utf]
  rfl

theorem weight_eq (servers : List (List UInt8)) :
    weight servers = (servers.flatMap utf).length + 5 * servers.length := by
  induction servers with
  | nil => rfl
  | cons server servers ih =>
    rw [weight] at ih
    rw [weight, List.map_cons, List.sum_cons, ih, List.flatMap_cons, List.length_append, length_utf,
      List.length_cons]
    omega

/-! Each key, with the value that is written for it. -/

theorem readEntries_key (few : key.length < 2^16) (other : key ≠ eosKey) (tail : List UInt8) :
    readEntries ignores_unknown (n + 1) c (utf key ++ tail) =
      (readValue ignores_unknown key c tail).bind fun q =>
        readEntries ignores_unknown n q.1 q.2 := by
  rw [readEntries, utf, readUtf_encode few, Option.bind_some, if_neg other]

theorem readEntries_eos (ignores_unknown : Bool) (n : Nat) (c : IpConfiguration) (tail : List UInt8) :
    readEntries ignores_unknown (n + 1) c (utf eosKey ++ tail) = some (c, tail) := by
  rw [readEntries, utf, readUtf_encode (by decide), Option.bind_some, if_pos rfl]

theorem read_assignment (assignment : Assignment) (tail : List UInt8) :
    readValue ignores_unknown assignmentKey c (utf (assignmentToString assignment) ++ tail) =
      some ({ c with ipAssignment := assignment }, tail) := by
  have other : ¬ assignmentKey = idKey := by decide
  cases assignment with
  | Static =>
    rw [readValue, if_neg other, if_pos rfl, utf, readUtf_encode (by decide), Option.map_some,
      assignmentToString, if_pos rfl]
  | DHCP =>
    rw [readValue, if_neg other, if_pos rfl, utf, readUtf_encode (by decide), Option.map_some,
      assignmentToString]
    rfl

theorem read_linkAddress {address : List UInt8} (few : address.length < 2^16) (prefixLength : UInt32)
    (tail : List UInt8) :
    readValue ignores_unknown linkAddressKey c (utf address ++ (int prefixLength ++ tail)) =
      some ({ c with linkAddress := c.linkAddress.or (some (address, prefixLength)) }, tail) := by
  rw [readValue, if_neg (by decide), if_neg (by decide), if_pos rfl, readAddress, utf,
    readUtf_encode few, Option.bind_some, int, readInt_encode, Option.map_some, Option.map_some]

theorem readOptional_absent {α : Type} {read : List UInt8 → Option (α × List UInt8)} {m : UInt32}
    (other : m ≠ 1) (tail : List UInt8) : readOptional read (int m ++ tail) = some (none, tail) := by
  rw [readOptional, int, readInt_encode, Option.bind_some]
  exact if_neg other

theorem readOptional_present {α : Type} {read : List UInt8 → Option (α × List UInt8)} {a : α}
    {tail : List UInt8} (h : read tail = some (a, rest)) :
    readOptional read (int 1 ++ tail) = some (some a, rest) := by
  rw [readOptional, int, readInt_encode, Option.bind_some, if_pos rfl, h, Option.map_some]

theorem read_gateway {gateway : List UInt8} (few : gateway.length < 2^16) (tail : List UInt8) :
    readValue ignores_unknown gatewayKey c
        (int isDefaultGateway ++ (int gatewayIsPresent ++ (utf gateway ++ tail))) =
      some ({ c with gateway := c.gateway.or (some gateway) }, tail) := by
  have present : readOptional readUtf (int gatewayIsPresent ++ (utf gateway ++ tail)) =
      some (some gateway, tail) := readOptional_present (readUtf_encode few tail)
  rw [readValue, if_neg (by decide), if_neg (by decide), if_neg (by decide), if_pos rfl,
    readOptional_absent (by decide), Option.bind_some]
  simp only [present, Option.map_some, Option.isNone_none, if_true]

theorem read_dns {server : List UInt8} (few : server.length < 2^16) (tail : List UInt8) :
    readValue ignores_unknown dnsKey c (utf server ++ tail) =
      some ({ c with dnsServers := c.dnsServers ++ [server] }, tail) := by
  rw [readValue, if_neg (by decide), if_neg (by decide), if_neg (by decide), if_neg (by decide),
    if_pos rfl, utf, readUtf_encode few, Option.map_some]

theorem readId (id : UInt32) (tail : List UInt8) :
    readValue ignores_unknown idKey c (int id ++ tail) = some ({ c with id := id }, tail) := by
  rw [readValue, if_pos rfl, int, readInt_encode, Option.map_some]

/-- What has been read up to the servers. -/
def withoutServers (builder : IpConfigBuilder) : IpConfiguration :=
  ⟨builder.assignment_, some (builder.linkAddress, builder.linkPrefixLength),
    some builder.gateway_, [], 0xffffffff⟩

theorem readConfiguration_bytes (ignores_unknown : Bool) {builder : IpConfigBuilder}
    (version : builder.version_ = .Version2)
    (address : builder.linkAddress.length < 2^16) (gateway : builder.gateway_.length < 2^16) :
    ∃ n, readConfiguration ignores_unknown (bytes builder.values) =
      readEntries ignores_unknown (n + 3) builder.withoutServers
        (utf dnsKey ++ (builder.dnsServers_.flatMap utf ++ builder.lastBytes)) := by
  have enough : ∃ n, (bytes builder.values).length = n + 6 := by
    refine ⟨(bytes builder.values).length - 6, ?_⟩
    rw [bytes_values, List.length_append, List.length_append, length_int, length_utf]
    omega
  obtain ⟨n, length⟩ := enough
  refine ⟨n, ?_⟩
  rw [readConfiguration, length, bytes_values, version, int, readInt_encode, Option.bind_some]
  refine Eq.trans (if_pos rfl) ?_
  rw [readEntries_key (by decide) (by decide), read_assignment, Option.bind_some,
    readEntries_key (by decide) (by decide), read_linkAddress address, Option.bind_some,
    readEntries_key (by decide) (by decide), read_gateway gateway, Option.bind_some]
  rfl

/-- No key that is known has less than two characters. -/
theorem readValue_unknown (few : key.length ≤ 1) :
    readValue ignores_unknown key c b = if ignores_unknown then some (c, b) else none := by
  have other : ∀ known : List UInt8, 2 ≤ known.length → ¬ key = known := by
    intro known long given
    obtain rfl := given
    omega
  rw [readValue, if_neg (other _ (by decide)), if_neg (other _ (by decide)),
    if_neg (other _ (by decide)), if_neg (other _ (by decide)), if_neg (other _ (by decide))]

/-- A second server is taken for a key, and there are too few bytes for it to be read again. -/
theorem no_second_server {builder : IpConfigBuilder} {first second : List UInt8}
    {more : List (List UInt8)} (short : Short c) (short' : Short c')
    (before : c.dnsServers = [first]) (after : c'.dnsServers = first :: second :: more) :
    readEntries ignores_unknown n c ((second :: more).flatMap utf ++ builder.lastBytes) ≠
      some (c', []) := by
  intro h
  obtain ⟨-, added, servers, bound⟩ := readEntries_spec h short
  rw [before, after] at servers
  obtain rfl : second :: more = added := (List.cons.inj servers).2
  have one : more = [] := by
    rw [weight_eq, List.length_append, length_lastBytes, List.length_cons, List.length_nil] at bound
    exact List.length_eq_zero_iff.mp (by omega)
  subst one
  have few : second.length < 2^16 := short'.dnsServers second (by simp [after])
  obtain ⟨n, rfl⟩ : ∃ m, n = m + 1 := by
    cases n with
    | zero => cases h
    | succ m => exact ⟨m, rfl⟩
  simp only [List.flatMap_cons, List.flatMap_nil, List.append_nil] at h
  by_cases is_eos : second = eosKey
  · rw [is_eos, readEntries_eos] at h
    obtain ⟨rfl, -⟩ := Prod.mk.inj (Option.some.inj h)
    rw [before] at after
    cases after
  rw [readEntries_key few is_eos, Option.bind_eq_some_iff] at h
  obtain ⟨⟨next, tail⟩, value, entries⟩ := h
  obtain ⟨short_next, le, ⟨other, same⟩ | ⟨str, rfl, read, dns⟩⟩ := readValue_spec value short
  · -- Another key leaves room for a server of one character, which is no key that is known.
    obtain ⟨-, added, again, room⟩ := readEntries_spec entries short_next
    simp only [same, before, after, List.cons_append, List.nil_append, List.cons.injEq, true_and]
      at again
    subst again
    have single : weight [second] = 7 + second.length := rfl
    rw [single, List.length_nil] at room
    rw [length_lastBytes] at le
    rw [readValue_unknown (by simp only at room; omega)] at value
    split_ifs at value
    obtain ⟨rfl, rfl⟩ := Prod.mk.inj (Option.some.inj value)
    cases n with
    | zero => cases entries
    | succ n =>
      simp only at entries
      rw [lastBytes, readEntries_key (by decide) (by decide), readId, Option.bind_some] at entries
      obtain ⟨-, added, servers, bound⟩ := readEntries_spec entries ⟨short.1, short.2, short.3⟩
      simp only [before, after, List.cons_append, List.nil_append, List.cons.injEq, true_and]
        at servers
      subst servers
      rw [single, length_utf] at bound
      have three : eosKey.length = 3 := rfl
      omega
  · -- The key is `dns`, and its value the key behind it.
    rw [lastBytes, utf, readUtf_encode (by decide)] at read
    obtain ⟨rfl, -⟩ := Prod.mk.inj (Option.some.inj read)
    obtain ⟨-, added, again, -⟩ := readEntries_spec entries short_next
    simp only [dns, before, after, List.cons_append, List.nil_append, List.cons.injEq] at again
    exact absurd again.2.1 (by decide)

theorem short_initial : Short .initial := ⟨nofun, nofun, by simp [IpConfiguration.initial]⟩

theorem short_with_server {builder : IpConfigBuilder} {server : List UInt8}
    (address : builder.linkAddress.length < 2^16) (gateway : builder.gateway_.length < 2^16)
    (few : server.length < 2^16) : Short { builder.withoutServers with
      dnsServers := builder.withoutServers.dnsServers ++ [server] } := by
  constructor
  · intro p given
    obtain ⟨⟩ := given
    exact address
  · intro str given
    obtain ⟨⟩ := given
    exact gateway
  · intro str there
    exact List.mem_singleton.mp there ▸ few

/-- What is read has the second version, and no text longer than a prefix can tell. -/
theorem readConfiguration_spec {builder : IpConfigBuilder}
    (h : readConfiguration ignores_unknown (bytes builder.values) = some (c, [])) :
    builder.version_ = .Version2 ∧ Short c := by
  rw [readConfiguration, bytes_values, int, readInt_encode, Option.bind_some] at h
  obtain ⟨version, entries⟩ := Option.ite_none_right_eq_some.mp h
  refine ⟨?_, (readEntries_spec entries short_initial).1⟩
  cases same : builder.version_ with
  | Version1 =>
    rw [same] at version
    have two : Version.number .Version1 = 2 := version
    exact absurd two (by decide)
  | Version2 => rfl

/-- What a builder writes is read as its configuration, to the last byte, exactly when there is one
server, and no text is longer than its prefix can tell. -/
theorem write_reads_back_iff (builder : IpConfigBuilder) (ignores_unknown : Bool)
    (w w' : BinaryWriter) (size : Nat) (written : builder.write w = .ok size w') :
    (∃ b, w'.written = w.written ++ b ∧
      readConfiguration ignores_unknown b = some (builder.configuration, [])) ↔
      builder.Readable := by
  obtain ⟨split, -⟩ := write_ok written
  constructor
  · intro given
    obtain ⟨b, same, h⟩ := given
    obtain rfl : bytes builder.values = b := List.append_cancel_left (split.symm.trans same)
    obtain ⟨version, short⟩ := readConfiguration_spec h
    have address := short.linkAddress _ rfl
    have gateway := short.gateway _ rfl
    obtain ⟨n, start⟩ := readConfiguration_bytes ignores_unknown version address gateway
    rw [start, readEntries_key (by decide) (by decide)] at h
    cases servers : builder.dnsServers_ with
    | nil =>
      -- The key behind is taken for a server.
      rw [servers, List.flatMap_nil, List.nil_append, lastBytes, read_dns (by decide),
        Option.bind_some] at h
      obtain ⟨-, added, none, -⟩ :=
        readEntries_spec h (short_with_server address gateway (by decide))
      rw [configuration, servers] at none
      cases none
    | cons first more =>
      rw [servers, List.flatMap_cons, List.append_assoc] at h
      have few := short.dnsServers first (by simp [configuration, servers])
      rw [read_dns few, Option.bind_some] at h
      cases more with
      | nil =>
        refine ⟨version, by rw [servers]; rfl, ?_⟩
        simp only [servers, List.forall_mem_cons]
        exact ⟨address, gateway, few, nofun⟩
      | cons second more =>
        refine absurd h (no_second_server (short_with_server address gateway few) short rfl ?_)
        rw [configuration, servers]
  · intro given
    obtain ⟨version, one, short⟩ := given
    refine ⟨bytes builder.values, split, ?_⟩
    obtain ⟨server, servers⟩ := List.length_eq_one_iff.mp one
    rw [servers] at short
    obtain ⟨n, start⟩ := readConfiguration_bytes ignores_unknown version
      (short _ (by simp)) (short _ (by simp))
    have all : builder.configuration = ⟨builder.assignment_,
        some (builder.linkAddress, builder.linkPrefixLength), some builder.gateway_, [server],
        builder.id_⟩ := by rw [configuration, servers]
    rw [start, servers, readEntries_key (by decide) (by decide), List.flatMap_cons,
      List.flatMap_nil, List.append_nil, read_dns (short _ (by simp)), Option.bind_some, lastBytes,
      readEntries_key (by decide) (by decide), readId, Option.bind_some, all]
    have last := readEntries_eos ignores_unknown n builder.configuration []
    rw [List.append_nil, all] at last
    exact last

/-- The configuration of a container for which nothing else is asked, but for its servers. -/
def withServers (dnsServers : List (List UInt8)) : IpConfigBuilder :=
  ⟨.Version2, .Static, text "192.168.250.2", 24, text "192.168.250.1", dnsServers, 0⟩

theorem default_server_reads_back :
    ∃ size w', (withServers [text "8.8.8.8"]).write (make true (List.replicate 512 0)) = .ok size w' ∧
      ((∃ b, w'.written = (make true (List.replicate 512 0)).written ++ b ∧
        readConfiguration true b = some ((withServers [text "8.8.8.8"]).configuration, [])) ↔
        (withServers [text "8.8.8.8"]).Readable) := by
  obtain ⟨size, w', written⟩ := write_of_room (withServers [text "8.8.8.8"])
    (w := make true (List.replicate 512 0)) (by decide +kernel)
  exact ⟨size, w', written, write_reads_back_iff (withServers [text "8.8.8.8"]) true
    (make true (List.replicate 512 0)) w' size written⟩

/-- Two servers, and a reader that passes over unknown keys. -/
theorem second_server_lost : ¬ ∀ (builder : IpConfigBuilder) (w w' : BinaryWriter) (size : Nat),
    builder.write w = .ok size w' → ∃ b, w'.written = w.written ++ b ∧
      readConfiguration true b = some (builder.configuration, []) := by
  intro h
  obtain ⟨size, w', written⟩ := write_of_room (withServers [text "8.8.8.8", text "8.8.4.4"])
    (w := make true (List.replicate 512 0)) (by decide +kernel)
  obtain ⟨b, same, read⟩ := h _ _ _ _ written
  obtain rfl := List.append_cancel_left ((write_ok written).1.symm.trans same)
  exact absurd read (by decide +kernel)

end IpConfigBuilder

end Anbox.Android
