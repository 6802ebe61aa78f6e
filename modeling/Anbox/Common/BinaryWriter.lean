import Anbox.Framework.Codec
import Anbox.Framework.Run

namespace Anbox.Common

open Anbox.Framework

inductive Order where
  | Big
  | Little
  deriving DecidableEq

/-- What `memcpy` finds in the memory of a converted number. -/
def Order.bytes (order : Order) (width n : Nat) : List UInt8 :=
  match order with
  | .Big => (little width n).reverse
  | .Little => little width n

/-- The bytes of the buffer up to `current_`, and those from there to `end_`. -/
structure BinaryWriter where
  byteOrder_ : Order
  written : List UInt8
  room : List UInt8

namespace BinaryWriter

def make (isLittleEndian : Bool) (buffer : List UInt8) : BinaryWriter :=
  ⟨if isLittleEndian then .Little else .Big, [], buffer⟩

/-- Bytes are copied over those at `current_`, which is moved behind them. -/
def advance (w : BinaryWriter) (bytes : List UInt8) : BinaryWriter :=
  { w with written := w.written ++ bytes, room := w.room.drop bytes.length }

/-- An exception leaves the writer as it is at that point. -/
abbrev Writing := EStateM String BinaryWriter Unit

def setByteOrder (order : Order) : Writing := modify fun w => { w with byteOrder_ := order }

/-- The check that all functions make, and the copy. -/
def write (bytes : List UInt8) : Writing := do
  if (← get).room.length < bytes.length then throw "Write buffer exhausted"
  modify fun w => w.advance bytes

def writeUint16 (value : UInt16) : Writing := do
  write ((← get).byteOrder_.bytes 2 value.toNat)

def writeUint32 (value : UInt32) : Writing := do
  write ((← get).byteOrder_.bytes 4 value.toNat)

def writeString (s : List UInt8) : Writing := write s

/-- The size is converted to the 16 bits of the prefix. -/
def writeStringWithSize (str : List UInt8) : Writing := do
  writeUint16 (UInt16.ofNat str.length)
  writeString str

/-! Sequences of writes. -/

inductive Format where
  | uint16
  | uint32
  | string
  deriving DecidableEq

inductive Value where
  | uint16 (value : UInt16)
  | uint32 (value : UInt32)
  | string (str : List UInt8)
  deriving DecidableEq

def Value.format : Value → Format
  | uint16 _ => .uint16
  | uint32 _ => .uint32
  | string _ => .string

def writeValue : Value → Writing
  | .uint16 value => writeUint16 value
  | .uint32 value => writeUint32 value
  | .string str => writeStringWithSize str

inductive Action where
  | setByteOrder (order : Order)
  | write (value : Value)

/-- A writer, and what has been written with success. -/
structure Session where
  writer : BinaryWriter
  log : List (Order × Value)

def step (s : Session) : Action → Option Session
  | .setByteOrder order => some { s with writer := { s.writer with byteOrder_ := order } }
  | .write value =>
    match writeValue value s.writer with
    | .ok _ writer => some ⟨writer, s.log ++ [(s.writer.byteOrder_, value)]⟩
    | .error _ writer => some { s with writer }

/-! What is wanted. -/

def Order.number (order : Order) (bytes : List UInt8) : Nat :=
  match order with
  | .Big => ofLittle bytes.reverse
  | .Little => ofLittle bytes

/-- A value of a known format, as a reader takes it from the front. -/
def read (kind : Order × Format) (b : List UInt8) : Option ((Order × Value) × List UInt8) :=
  match kind.2 with
  | .uint16 => (splitFront 2 b).map fun p =>
    ((kind.1, .uint16 (UInt16.ofNat (Order.number kind.1 p.1))), p.2)
  | .uint32 => (splitFront 4 b).map fun p =>
    ((kind.1, .uint32 (UInt32.ofNat (Order.number kind.1 p.1))), p.2)
  | .string => (splitFront 2 b).bind fun p =>
    (splitFront (Order.number kind.1 p.1) p.2).map fun q => ((kind.1, .string q.1), q.2)

def kind (item : Order × Value) : Order × Format := (item.1, item.2.format)

/-- A write that raises leaves the writer as it was. -/
def Atomic (s : Session) (a : Action) : Prop :=
  ∀ value error writer, a = .write value → writeValue value s.writer = .error error writer →
    writer = s.writer

/-- The bytes written are read as the values of the writes that succeeded. -/
def Decodes (s : Session) : Prop := readAll read (s.log.map kind) s.writer.written = some s.log

/-- A string finds room for all of it or not even for its prefix, and if it finds room, its size has 16
bits. -/
def Fits (s : Session) (a : Action) : Prop :=
  ∀ str, a = .write (.string str) →
    s.writer.room.length < 2 ∨ (2 + str.length ≤ s.writer.room.length ∧ str.length < 2^16)

/-! Single writes. -/

def Order.encode (order : Order) : Value → List UInt8
  | .uint16 value => order.bytes 2 value.toNat
  | .uint32 value => order.bytes 4 value.toNat
  | .string str => order.bytes 2 (UInt16.ofNat str.length).toNat ++ str

variable {w w' : BinaryWriter} {bytes : List UInt8}

theorem length_bytes (order : Order) (width n : Nat) : (order.bytes width n).length = width := by
  cases order with
  | Big => rw [Order.bytes, List.length_reverse, length_little]
  | Little => rw [Order.bytes, length_little]

theorem number_bytes (order : Order) (width n : Nat) :
    Order.number order (order.bytes width n) = n % 256^width := by
  cases order with
  | Big => simp only [Order.number, Order.bytes, List.reverse_reverse, ofLittle_little]
  | Little => simp only [Order.number, Order.bytes, ofLittle_little]

theorem number_lt (order : Order) (bytes : List UInt8) :
    Order.number order bytes < 256^bytes.length := by
  cases order with
  | Big => simpa only [Order.number, List.length_reverse] using ofLittle_lt bytes.reverse
  | Little => exact ofLittle_lt bytes

theorem advance_advance (w : BinaryWriter) (first second : List UInt8) :
    (w.advance first).advance second = w.advance (first ++ second) := by
  simp only [advance, List.append_assoc, List.length_append, List.drop_drop]

theorem write_eq (bytes : List UInt8) (w : BinaryWriter) : write bytes w =
    if w.room.length < bytes.length then .error "Write buffer exhausted" w
    else .ok () (w.advance bytes) := by
  by_cases full : w.room.length < bytes.length
  · rw [if_pos full]
    exact congrFun (if_pos full) w
  · rw [if_neg full]
    exact congrFun (if_neg full) w

theorem writeUint16_eq (value : UInt16) (w : BinaryWriter) :
    writeUint16 value w = write (w.byteOrder_.bytes 2 value.toNat) w := rfl

theorem writeUint32_eq (value : UInt32) (w : BinaryWriter) :
    writeUint32 value w = write (w.byteOrder_.bytes 4 value.toNat) w := rfl

/-- The prefix is written before it is known whether there is room for the string. -/
theorem writeStringWithSize_eq (str : List UInt8) (w : BinaryWriter) :
    writeStringWithSize str w =
      if w.room.length < 2 then .error "Write buffer exhausted" w
      else if w.room.length < 2 + str.length then
        .error "Write buffer exhausted"
          (w.advance (w.byteOrder_.bytes 2 (UInt16.ofNat str.length).toNat))
      else .ok () (w.advance (Order.encode w.byteOrder_ (.string str))) := by
  simp only [writeStringWithSize, bind, EStateM.bind, writeUint16_eq, write_eq, length_bytes]
  by_cases no_prefix : w.room.length < 2
  · rw [if_pos no_prefix, if_pos no_prefix]
  · rw [if_neg no_prefix, if_neg no_prefix]
    simp only [writeString, write_eq]
    have room : (w.advance (w.byteOrder_.bytes 2 (UInt16.ofNat str.length).toNat)).room.length =
        w.room.length - 2 := by rw [advance, List.length_drop, length_bytes]
    rw [room]
    by_cases no_string : w.room.length < 2 + str.length
    · rw [if_pos no_string, if_pos (by omega)]
    · rw [if_neg no_string, if_neg (by omega), advance_advance, Order.encode]

theorem length_encode (order : Order) (value : Value) : (Order.encode order value).length =
    match value with
    | .uint16 _ => 2
    | .uint32 _ => 4
    | .string str => 2 + str.length := by
  cases value with
  | uint16 value => exact length_bytes _ _ _
  | uint32 value => exact length_bytes _ _ _
  | string str => rw [Order.encode, List.length_append, length_bytes]

/-- A write that returns has found room for the value, and written it. -/
theorem writeValue_ok {value : Value} (h : writeValue value w = .ok () w') :
    (Order.encode w.byteOrder_ value).length ≤ w.room.length ∧
      w' = w.advance (Order.encode w.byteOrder_ value) := by
  rw [length_encode]
  cases value with
  | uint16 value =>
    rw [writeValue, writeUint16_eq, write_eq, length_bytes] at h
    split_ifs at h with exhausted
    cases h
    exact ⟨Nat.not_lt.mp exhausted, rfl⟩
  | uint32 value =>
    rw [writeValue, writeUint32_eq, write_eq, length_bytes] at h
    split_ifs at h with exhausted
    cases h
    exact ⟨Nat.not_lt.mp exhausted, rfl⟩
  | string str =>
    rw [writeValue, writeStringWithSize_eq] at h
    split_ifs at h with no_prefix no_string
    cases h
    exact ⟨Nat.not_lt.mp no_string, rfl⟩

theorem writeValue_of_room (value : Value)
    (room : (Order.encode w.byteOrder_ value).length ≤ w.room.length) :
    writeValue value w = .ok () (w.advance (Order.encode w.byteOrder_ value)) := by
  rw [length_encode] at room
  cases value with
  | uint16 value =>
    rw [writeValue, writeUint16_eq, write_eq, length_bytes, if_neg (Nat.not_lt.mpr room)]
    rfl
  | uint32 value =>
    rw [writeValue, writeUint32_eq, write_eq, length_bytes, if_neg (Nat.not_lt.mpr room)]
    rfl
  | string str =>
    simp only at room
    rw [writeValue, writeStringWithSize_eq, if_neg (by omega), if_neg (by omega)]

/-- Where a write raises: only a string can leave something behind. -/
theorem writeValue_error {value : Value} {error : String} (h : writeValue value w = .error error w') :
    w' = w ∨ ∃ str, value = .string str ∧ 2 ≤ w.room.length ∧ w.room.length < 2 + str.length := by
  cases value with
  | uint16 value =>
    rw [writeValue, writeUint16_eq, write_eq] at h
    split_ifs at h
    cases h
    exact Or.inl rfl
  | uint32 value =>
    rw [writeValue, writeUint32_eq, write_eq] at h
    split_ifs at h
    cases h
    exact Or.inl rfl
  | string str =>
    rw [writeValue, writeStringWithSize_eq] at h
    split_ifs at h with no_prefix no_string
    · cases h
      exact Or.inl rfl
    · exact Or.inr ⟨str, rfl, by omega, no_string⟩

theorem bind_eq_ok {α β : Type} {x : EStateM String BinaryWriter α}
    {f : α → EStateM String BinaryWriter β} {b : β} (h : (x >>= f) w = .ok b w') :
    ∃ a u, x w = .ok a u ∧ f a u = .ok b w' := by
  simp only [bind, EStateM.bind] at h
  split at h
  · next a u first => exact ⟨a, u, first, h⟩
  · cases h

/-- Values that are all written are written one behind the other. -/
theorem forM_writeValue_ok {vs : List Value} (h : vs.forM writeValue w = .ok () w') :
    w'.written = w.written ++ vs.flatMap (Order.encode w.byteOrder_) := by
  induction vs generalizing w with
  | nil =>
    cases h
    rw [List.flatMap_nil, List.append_nil]
  | cons value vs ih =>
    obtain ⟨⟨⟩, u, first, later⟩ := bind_eq_ok h
    obtain ⟨-, rfl⟩ := writeValue_ok first
    rw [ih later, List.flatMap_cons, ← List.append_assoc]
    rfl

theorem forM_writeValue_of_room (vs : List Value)
    (room : (vs.flatMap (Order.encode w.byteOrder_)).length ≤ w.room.length) :
    ∃ w', vs.forM writeValue w = .ok () w' := by
  induction vs generalizing w with
  | nil => exact ⟨w, rfl⟩
  | cons value vs ih =>
    rw [List.flatMap_cons, List.length_append] at room
    have first := writeValue_of_room (w := w) value (by omega)
    obtain ⟨w', later⟩ := ih (w := w.advance (Order.encode w.byteOrder_ value)) (by
      rw [advance, List.length_drop]
      simp only
      omega)
    refine ⟨w', ?_⟩
    have both : (writeValue value >>= fun _ => vs.forM writeValue) w = .ok () w' := by
      simp only [bind, EStateM.bind, first]
      exact later
    exact both

/-! Reading back. -/

theorem read_encode (order : Order) {value : Value}
    (short : ∀ str, value = .string str → str.length < 2^16) (tail : List UInt8) :
    read (order, value.format) (Order.encode order value ++ tail) = some ((order, value), tail) := by
  cases value with
  | uint16 value =>
    have bound : value.toNat < 256^2 := value.toNat_lt
    have number : Order.number order (order.bytes 2 value.toNat) = value.toNat := by
      rw [number_bytes, Nat.mod_eq_of_lt bound]
    simp only [read, Value.format, Order.encode, splitFront_append (length_bytes _ _ _), number,
      Option.map_some, UInt16.ofNat_toNat]
  | uint32 value =>
    have bound : value.toNat < 256^4 := value.toNat_lt
    have number : Order.number order (order.bytes 4 value.toNat) = value.toNat := by
      rw [number_bytes, Nat.mod_eq_of_lt bound]
    simp only [read, Value.format, Order.encode, splitFront_append (length_bytes _ _ _), number,
      Option.map_some, UInt32.ofNat_toNat]
  | string str =>
    have bound : str.length < 256^2 := short str rfl
    have size : (UInt16.ofNat str.length).toNat = str.length := UInt16.toNat_ofNat_of_lt' bound
    have number : Order.number order (order.bytes 2 str.length) = str.length := by
      rw [number_bytes, Nat.mod_eq_of_lt bound]
    simp only [read, Value.format, Order.encode, size, List.append_assoc,
      splitFront_append (length_bytes _ _ _), Option.bind_some, number, splitFront_append rfl,
      Option.map_some]

/-- No string that is read is longer than its prefix can tell. -/
theorem read_short {k : Order × Format} {b tail : List UInt8} {item : Order × Value}
    (h : read k b = some (item, tail)) : ∀ str, item.2 = .string str → str.length < 2^16 := by
  obtain ⟨order, format⟩ := k
  cases format with
  | uint16 =>
    obtain ⟨p, -, same⟩ := Option.map_eq_some_iff.mp h
    cases same
    exact nofun
  | uint32 =>
    obtain ⟨p, -, same⟩ := Option.map_eq_some_iff.mp h
    cases same
    exact nofun
  | string =>
    obtain ⟨⟨front, rest⟩, first, later⟩ := Option.bind_eq_some_iff.mp h
    obtain ⟨⟨chars, behind⟩, second, same⟩ := Option.map_eq_some_iff.mp later
    cases same
    intro str hstr
    cases hstr
    have bound := number_lt order front
    rw [length_of_splitFront first] at bound
    rw [length_of_splitFront second]
    exact bound

/-! Sequences. -/

/-- Everything in the log has been written as it should be, and can be read. -/
structure Written (s : Session) : Prop where
  bytes : s.writer.written = s.log.flatMap fun item => Order.encode item.1 item.2
  short : ∀ item ∈ s.log, ∀ str, item.2 = .string str → str.length < 2^16

theorem Written.decodes {s : Session} (h : Written s) : Decodes s := by
  rw [Decodes, h.bytes]
  exact readAll_written fun item there tail => read_encode item.1 (h.short item there) tail

theorem step_keeps {s t : Session} {a : Action} (h : Written s) (fits : Fits s a)
    (ht : step s a = some t) : Atomic s a ∧ Written t := by
  cases a with
  | setByteOrder order =>
    cases ht
    exact ⟨nofun, h.bytes, h.short⟩
  | write value =>
    constructor
    · intro value' error writer same raised
      cases same
      obtain same | ⟨str, rfl, some_, few⟩ := writeValue_error raised
      · exact same
      · have room := fits str rfl
        omega
    · rw [step] at ht
      split at ht
      · next writer written =>
        cases ht
        obtain ⟨room, rfl⟩ := writeValue_ok written
        constructor
        · simp only [advance, h.bytes, List.flatMap_append, List.flatMap_cons, List.flatMap_nil,
            List.append_nil]
        · intro item there str hstr
          obtain before | last := List.mem_append.mp there
          · exact h.short item before str hstr
          · obtain rfl := List.mem_singleton.mp last
            obtain rfl : value = .string str := hstr
            have long : 2 + str.length ≤ s.writer.room.length := by
              simpa only [length_encode] using room
            obtain exhausted | ⟨-, short⟩ := fits str rfl
            · exact absurd long (by omega)
            · exact short
      · next error writer raised =>
        cases ht
        obtain rfl | ⟨str, rfl, some_, few⟩ := writeValue_error raised
        · exact h
        · have room := fits str rfl
          omega

/-- A step that is atomic, and after which the bytes can be read, had a string that fits, if any. -/
theorem fits_of_step {s t : Session} {a : Action} (atomic : Atomic s a) (decodes : Decodes t)
    (ht : step s a = some t) : Fits s a := by
  intro str given
  obtain rfl := given
  have written := writeStringWithSize_eq str s.writer
  by_cases no_prefix : s.writer.room.length < 2
  · exact Or.inl no_prefix
  rw [if_neg no_prefix] at written
  by_cases no_string : s.writer.room.length < 2 + str.length
  · -- The prefix that is left behind is two bytes more than there were.
    rw [if_pos no_string] at written
    have same := congrArg (fun w => w.written.length) (atomic _ _ _ rfl written)
    simp only [advance, List.length_append, length_bytes] at same
    omega
  · rw [if_neg no_string] at written
    refine Or.inr ⟨Nat.not_lt.mp no_string, ?_⟩
    rw [step, writeValue, written] at ht
    cases ht
    refine forall_of_readAll (fun k b item tail h => read_short h) decodes
      (s.writer.byteOrder_, .string str) ?_ str rfl
    exact List.mem_append_right _ List.mem_cons_self

theorem faithful_iff {s : Session} (h : Written s) (as : List Action) :
    (Along step Atomic s as ∧ Always step Decodes s as) ↔ Along step Fits s as := by
  induction as generalizing s with
  | nil => exact ⟨fun _ => trivial, fun _ => ⟨trivial, h.decodes⟩⟩
  | cons a as ih =>
    constructor
    · intro given t ht
      obtain ⟨atomic, -, decodes⟩ := given
      have fits := fits_of_step (atomic t ht).1 (decodes t ht).head ht
      have next := (step_keeps h fits ht).2
      exact ⟨fits, (ih next).mp ⟨(atomic t ht).2, decodes t ht⟩⟩
    · intro fits
      have later : ∀ t, step s a = some t →
          Atomic s a ∧ Along step Atomic t as ∧ Always step Decodes t as := by
        intro t ht
        obtain ⟨atomic, next⟩ := step_keeps h (fits t ht).1 ht
        exact ⟨atomic, (ih next).mpr (fits t ht).2⟩
      exact ⟨fun t ht => ⟨(later t ht).1, (later t ht).2.1⟩,
        h.decodes, fun t ht => (later t ht).2.2⟩

/-- All writes are atomic and what they write can be read, throughout, exactly when no string finds room
for its prefix alone, and none that is written is too long for the prefix. -/
theorem binary_writer_faithful_iff (isLittleEndian : Bool) (buffer : List UInt8)
    (as : List Action) :
    (Along step Atomic ⟨make isLittleEndian buffer, []⟩ as ∧
      Always step Decodes ⟨make isLittleEndian buffer, []⟩ as) ↔
      Along step Fits ⟨make isLittleEndian buffer, []⟩ as :=
  faithful_iff ⟨rfl, fun _ none => absurd none List.not_mem_nil⟩ as

/-- Four bytes, and a string of four. -/
theorem prefix_left : ¬ ∀ (isLittleEndian : Bool) (buffer : List UInt8) (as : List Action),
    Along step Atomic ⟨make isLittleEndian buffer, []⟩ as ∧
      Always step Decodes ⟨make isLittleEndian buffer, []⟩ as := by
  intro h
  have atomic := (h true [0, 0, 0, 0] [.write (.string [116, 101, 115, 116])]).1
  have same := (atomic _ rfl).1 _ _ _ rfl rfl
  exact absurd (congrArg written same) (by decide)

end BinaryWriter

end Anbox.Common
