import Anbox.Framework.Codec
import Anbox.Framework.Framing
import Anbox.Rpc.Protobuf

namespace Anbox.Rpc

open Anbox.Framework

/-- What `varint` writes, read back: `k` bytes at most. -/
def readVarint : Nat → List UInt8 → Option (Nat × List UInt8)
  | 0, _ | _ + 1, [] => none
  | k+1, b :: bs =>
    if b.toNat < 128 then some (b.toNat, bs)
    else (readVarint k bs).map fun p => (b.toNat % 128 + 128 * p.1, p.2)

theorem read_varintBytes {k n : Nat} (h : n < 128^(k+1)) (r : List UInt8) :
    readVarint (k+1) (varintBytes (k+1) n ++ r) = some (n, r) := by
  induction k generalizing n with
  | zero =>
    have small : n < 128 := by simpa using h
    have one : n % 256 = n := by omega
    rw [varintBytes, if_pos small, List.singleton_append, readVarint, UInt8.toNat_ofNat', one,
      if_pos small]
  | succ k ih =>
    by_cases small : n < 128
    · have one : n % 256 = n := by omega
      rw [varintBytes, if_pos small, List.singleton_append, readVarint, UInt8.toNat_ofNat', one,
        if_pos small]
    · have byte : (n % 128 + 128) % 2^8 = n % 128 + 128 := by omega
      have above : ¬ n % 128 + 128 < 128 := by omega
      have fewer : n / 128 < 128^(k+1) := Nat.div_lt_of_lt_mul (by rwa [← Nat.pow_succ'])
      rw [varintBytes, if_neg small, List.cons_append, readVarint, UInt8.toNat_ofNat', byte,
        if_neg above, ih fewer, Option.map_some]
      have value : (n % 128 + 128) % 128 + 128 * (n / 128) = n := by omega
      rw [value]

theorem readVarint_shorter {k n : Nat} {b r : List UInt8} (h : readVarint k b = some (n, r)) :
    r.length < b.length := by
  induction k generalizing b n with
  | zero => cases h
  | succ k ih =>
    cases b with
    | nil => cases h
    | cons c b =>
      rw [readVarint] at h
      split at h
      · cases h
        exact Nat.lt_succ_self _
      · obtain ⟨p, later, same⟩ := Option.map_eq_some_iff.mp h
        cases same
        exact Nat.lt_succ_of_lt (ih later)

theorem readVarint_append {k n : Nat} {b r : List UInt8} (h : readVarint k b = some (n, r))
    (c : List UInt8) : readVarint k (b ++ c) = some (n, r ++ c) := by
  induction k generalizing b n with
  | zero => cases h
  | succ k ih =>
    cases b with
    | nil => cases h
    | cons d b =>
      rw [readVarint] at h
      rw [List.cons_append, readVarint]
      split at h
      · rename_i last
        cases h
        rw [if_pos last]
      · rename_i more
        obtain ⟨p, later, same⟩ := Option.map_eq_some_iff.mp h
        cases same
        rw [if_neg more, ih later, Option.map_some]

/-- One field of a message; the numbers up to 15 have a key of one byte. -/
inductive Field where
  | varint (number : Fin 16) (value : UInt64)
  | lengthDelimited (number : Fin 16) (bytes : List UInt8) (small : bytes.length < 2^31)

/-- The field number over the wire type. -/
def key (number : Fin 16) (wireType : Nat) : UInt8 := UInt8.ofNat (8 * number.1 + wireType)

def Field.encode : Field → List UInt8
  | .varint number value => key number 0 :: Rpc.varint value.toNat
  | .lengthDelimited number bytes _ => Rpc.lengthDelimited (key number 2) bytes

/-- The bytes of a field of that length. -/
def readBytes (number : Fin 16) (size : Nat) (b : List UInt8) : Option (Field × List UInt8) :=
  if small : size < 2^31 then
    if size ≤ b.length then
      some (.lengthDelimited number (b.take size)
        (Nat.lt_of_le_of_lt (List.length_take_le size b) small), b.drop size)
    else none
  else none

/-- The field at the front. The other wire types stand in no message here. -/
def readField : List UInt8 → Option (Field × List UInt8)
  | [] => none
  | key :: b =>
    if h : key.toNat / 8 < 16 then
      if key.toNat % 8 = 0 then
        (readVarint 10 b).map fun p => (.varint ⟨key.toNat / 8, h⟩ (UInt64.ofNat p.1), p.2)
      else if key.toNat % 8 = 2 then
        (readVarint 10 b).bind fun p => readBytes ⟨key.toNat / 8, h⟩ p.1 p.2
      else none
    else none

theorem readBytes_eq_some {number : Fin 16} {size : Nat} {b r : List UInt8} {f : Field} :
    readBytes number size b = some (f, r) ↔
      ∃ front small, b = front ++ r ∧ front.length = size ∧
        f = .lengthDelimited number front small := by
  rw [readBytes]
  constructor
  · intro h
    split at h
    · split at h
      · rename_i small enough
        cases h
        exact ⟨b.take size, _, (List.take_append_drop size b).symm,
          List.length_take_of_le enough, rfl⟩
      · cases h
    · cases h
  · rintro ⟨front, small, rfl, rfl, rfl⟩
    rw [dif_pos small, if_pos (by simp)]
    simp

theorem toNat_key (number : Fin 16) {wireType : Nat} (h : wireType < 8) :
    (key number wireType).toNat = 8 * number.1 + wireType := by
  have below := number.2
  rw [key, UInt8.toNat_ofNat']
  omega

theorem readField_key (number : Fin 16) {wireType : Nat} (h : wireType < 8) (b : List UInt8) :
    readField (key number wireType :: b) =
      if wireType = 0 then
        (readVarint 10 b).map fun p => (.varint number (UInt64.ofNat p.1), p.2)
      else if wireType = 2 then (readVarint 10 b).bind fun p => readBytes number p.1 p.2
      else none := by
  have value := toNat_key number h
  have past : (key number wireType).toNat / 8 = number.1 := by omega
  have type : (key number wireType).toNat % 8 = wireType := by omega
  have number_eq (below : (key number wireType).toNat / 8 < 16) :
      (⟨(key number wireType).toNat / 8, below⟩ : Fin 16) = number := Fin.ext past
  rw [readField, dif_pos (past ▸ number.2), type]
  simp only [number_eq]

theorem readField_shorter {b : List UInt8} {f : Field} {r : List UInt8}
    (h : readField b = some (f, r)) : r.length < b.length := by
  cases b with
  | nil => cases h
  | cons key b =>
    rw [readField] at h
    split at h
    · split at h
      · obtain ⟨p, front, same⟩ := Option.map_eq_some_iff.mp h
        cases same
        exact Nat.lt_succ_of_lt (readVarint_shorter front)
      · split at h
        · obtain ⟨p, front, bytes⟩ := Option.bind_eq_some_iff.mp h
          obtain ⟨taken, -, rest, -, -⟩ := readBytes_eq_some.mp bytes
          have shorter := readVarint_shorter front
          rw [rest, List.length_append] at shorter
          rw [List.length_cons]
          omega
        · cases h
    · cases h

theorem readField_append {b : List UInt8} {f : Field} {r : List UInt8} (c : List UInt8)
    (h : readField b = some (f, r)) : readField (b ++ c) = some (f, r ++ c) := by
  cases b with
  | nil => cases h
  | cons key b =>
    rw [readField] at h
    rw [List.cons_append, readField]
    split at h
    · rename_i below
      rw [dif_pos below]
      split at h
      · rename_i type
        obtain ⟨p, front, same⟩ := Option.map_eq_some_iff.mp h
        cases same
        rw [if_pos type, readVarint_append front c, Option.map_some]
      · rename_i other
        rw [if_neg other]
        split at h
        · rename_i type
          obtain ⟨p, front, bytes⟩ := Option.bind_eq_some_iff.mp h
          obtain ⟨taken, small, rest, size, same⟩ := readBytes_eq_some.mp bytes
          rw [if_pos type, readVarint_append front c, Option.bind_some]
          refine readBytes_eq_some.mpr ⟨taken, small, ?_, size, same⟩
          rw [rest, List.append_assoc]
        · cases h
    · cases h

theorem readField_encode (f : Field) (r : List UInt8) :
    readField (f.encode ++ r) = some (f, r) := by
  cases f with
  | varint number value =>
    have fits : value.toNat < 128^10 := by
      have := value.toNat_lt
      omega
    rw [Field.encode, List.cons_append, readField_key number (by decide), if_pos rfl,
      varint, read_varintBytes fits, Option.map_some, UInt64.ofNat_toNat]
  | lengthDelimited number bytes small =>
    have fits : bytes.length < 128^10 := by omega
    rw [Field.encode, Rpc.lengthDelimited, List.cons_append, List.cons_append,
      List.append_assoc, readField_key number (by decide), if_neg (by decide), if_pos rfl,
      varint, read_varintBytes fits, Option.bind_some]
    exact readBytes_eq_some.mpr ⟨bytes, small, rfl, rfl, rfl⟩

/-- The wire format of the fields of a message. -/
def wireFields : FrameCodec UInt8 Field where
  next := readField
  next_length := readField_shorter
  next_append := readField_append
  encode := Field.encode
  next_encode := readField_encode

/-- What the fields of a message are written and read as. -/
theorem fields_encoded (fs : List Field) : wireFields.frames (fs.flatMap Field.encode) = fs := by
  have drained : wireFields.frames (fs.flatMap Field.encode ++ []) = fs :=
    (wireFields.drain_encode fs rfl).1
  rwa [List.append_nil] at drained

/-! The two messages. Of a field that is no more than one value the last one stands. -/

def Invocation.set (m : Invocation) : Field → Invocation
  | .varint 1 id => { m with id := id.toUInt32 }
  | .lengthDelimited 2 bytes _ =>
    { m with methodName := (String.fromUTF8? ⟨bytes.toArray⟩).getD m.methodName }
  | .lengthDelimited 3 bytes _ => { m with parameters := bytes }
  | .varint 4 protocolVersion => { m with protocolVersion := protocolVersion.toUInt32 }
  | _ => m

/-- `ParseFromArray`, whose answer nobody looks at. -/
def Invocation.parse (b : List UInt8) : Invocation :=
  (wireFields.frames b).foldl Invocation.set ⟨0, "", [], 0⟩

def Result.set (m : Result) : Field → Result
  | .varint 1 id => { m with id := some id.toUInt32 }
  | .lengthDelimited 2 bytes _ => { m with response := some bytes }
  | .lengthDelimited 3 bytes _ => { m with events := m.events ++ [bytes] }
  | _ => m

def Result.parse (b : List UInt8) : Result :=
  (wireFields.frames b).foldl Result.set ⟨none, none, []⟩

theorem toList_loop (b : ByteArray) (i : Nat) (front : List UInt8) :
    ByteArray.toList.loop b i front = front.reverse ++ b.data.toList.drop i := by
  induction i, front using ByteArray.toList.loop.induct b with
  | case1 i front below ih =>
    have here : i < b.data.toList.length := by simpa using below
    have byte : b.get! i = b.data.toList[i] := by
      rw [ByteArray.get!, getElem!_pos b.data i below, Array.getElem_toList]
    rw [ByteArray.toList.loop, if_pos below, ih, List.reverse_cons, List.append_assoc, byte,
      List.singleton_append, List.getElem_cons_drop]
  | case2 i front behind =>
    have past : b.data.toList.length ≤ i := by simpa using Nat.le_of_not_lt behind
    rw [ByteArray.toList.loop, if_neg behind, List.drop_eq_nil_of_le past, List.append_nil]

theorem fromUTF8_toByteArray (s : String) :
    String.fromUTF8? ⟨s.toByteArray.toList.toArray⟩ = some s := by
  have same : (⟨s.toByteArray.toList.toArray⟩ : ByteArray) = s.toByteArray := by
    rw [ByteArray.toList, toList_loop]
    simp
  rw [same, String.fromUTF8?, dif_pos s.isValidUTF8]
  rfl

theorem Invocation.parse_serialize {m : Invocation} (small : m.serialize.length < 2^31) :
    Invocation.parse m.serialize = m := by
  have name := lengthDelimited_length 0x12 m.methodName.toUTF8.toList
  have parameters := lengthDelimited_length 0x1a m.parameters
  rw [serialize] at small
  simp only [List.length_append, List.length_cons] at small
  have fields : m.serialize = [Field.varint 1 m.id.toUInt64,
      .lengthDelimited 2 m.methodName.toUTF8.toList (by omega),
      .lengthDelimited 3 m.parameters (by omega),
      .varint 4 m.protocolVersion.toUInt64].flatMap Field.encode := by
    simp [serialize, Field.encode, key]
  rw [fields, parse, fields_encoded]
  simp [Invocation.set, fromUTF8_toByteArray]

/-- The results that are sent: either a response or an event. -/
theorem Result.parse_response {id : UInt32} {response : List UInt8}
    (small : (Result.serialize ⟨some id, some response, []⟩).length < 2^31) :
    Result.parse (Result.serialize ⟨some id, some response, []⟩) = ⟨some id, some response, []⟩ := by
  have bytes := lengthDelimited_length 0x12 response
  rw [serialize] at small
  simp only [List.length_append, Option.elim] at small
  have fields : Result.serialize ⟨some id, some response, []⟩ = [Field.varint 1 id.toUInt64,
      .lengthDelimited 2 response (by omega)].flatMap Field.encode := by
    simp [serialize, Field.encode, key]
  rw [fields, parse, fields_encoded]
  simp [Result.set]

theorem Result.parse_event {event : List UInt8}
    (small : (Result.serialize ⟨none, none, [event]⟩).length < 2^31) :
    Result.parse (Result.serialize ⟨none, none, [event]⟩) = ⟨none, none, [event]⟩ := by
  have bytes := lengthDelimited_length 0x1a event
  rw [serialize] at small
  simp only [List.flatMap_cons, List.length_append, Option.elim] at small
  have fields : Result.serialize ⟨none, none, [event]⟩ =
      [Field.lengthDelimited 3 event (by omega)].flatMap Field.encode := by
    simp [serialize, Field.encode, key]
  rw [fields, parse, fields_encoded]
  rfl

end Anbox.Rpc
