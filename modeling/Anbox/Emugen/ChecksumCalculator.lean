import Anbox.Framework.Codec
import Anbox.Framework.Run
import Mathlib.Data.UInt

namespace Anbox.Emugen

open Anbox.Framework

def kMaxVersion : UInt32 := 1

structure ChecksumCalculator where
  mVersion : UInt32
  mNumRead : UInt32
  mNumWrite : UInt32
  mIsEncodingChecksum : Bool
  mV1BufferTotalLength : UInt32
  deriving DecidableEq

namespace ChecksumCalculator

def init : ChecksumCalculator := ⟨0, 0, 0, false, 0⟩

def setVersion (c : ChecksumCalculator) (version : UInt32) : Bool × ChecksumCalculator :=
  if version > kMaxVersion then (false, c)
  else if c.mIsEncodingChecksum then (false, c)
  else (true, { c with mVersion := version })

def checksumByteSize (c : ChecksumCalculator) : Nat := if c.mVersion = 1 then 4 + 4 else 0

def addBuffer (c : ChecksumCalculator) (packetLen : Nat) : ChecksumCalculator :=
  { c with
    mIsEncodingChecksum := true
    mV1BufferTotalLength :=
      if c.mVersion = 1 then c.mV1BufferTotalLength + UInt32.ofNat packetLen else c.mV1BufferTotalLength }

def resetChecksum (c : ChecksumCalculator) : ChecksumCalculator :=
  { c with
    mIsEncodingChecksum := false
    mV1BufferTotalLength := if c.mVersion = 1 then 0 else c.mV1BufferTotalLength }

/-- Neighbours of `k` bits change places, those at the ones of the masks. -/
def swap (upper lower : UInt32) (k : UInt32) (x : UInt32) : UInt32 := (x &&& upper) >>> k ||| (x &&& lower) <<< k

/-- The length with its bits in reverse order. -/
def computeV1Checksum (c : ChecksumCalculator) : UInt32 :=
  let revLen := c.mV1BufferTotalLength
  let revLen := swap 0xffff0000 0x0000ffff 16 revLen
  let revLen := swap 0xff00ff00 0x00ff00ff 8 revLen
  let revLen := swap 0xf0f0f0f0 0x0f0f0f0f 4 revLen
  let revLen := swap 0xcccccccc 0x33333333 2 revLen
  swap 0xaaaaaaaa 0x55555555 1 revLen

/-- The bytes that are compared and written. -/
def v1 (c : ChecksumCalculator) (count : UInt32) : List UInt8 :=
  if c.mVersion = 1 then little 4 c.computeV1Checksum.toNat ++ little 4 count.toNat else []

def writeChecksum (c : ChecksumCalculator) (outputChecksumLen : Nat) : Option (List UInt8 × ChecksumCalculator) :=
  if outputChecksumLen < c.checksumByteSize then none
  else some (c.v1 c.mNumWrite, { c.resetChecksum with mNumWrite := c.mNumWrite + 1 })

def validate (c : ChecksumCalculator) (expectedChecksum : List UInt8) : Bool × ChecksumCalculator :=
  (c.v1 c.mNumRead = expectedChecksum, { c.resetChecksum with mNumRead := c.mNumRead + 1 })

/-- Every place is in one of two masks; those of the upper one are `k` places above those of the lower. -/
def Exchange (upper lower k : UInt32) : Prop :=
  k < 32 ∧ ∀ i < 32, upper.toBitVec.getLsbD i = (!lower.toBitVec.getLsbD i) ∧
    (lower.toBitVec.getLsbD i = true → upper.toBitVec.getLsbD (i + k.toNat) = true) ∧
    (upper.toBitVec.getLsbD i = true → k.toNat ≤ i ∧ lower.toBitVec.getLsbD (i - k.toNat) = true)

instance (upper lower k : UInt32) : Decidable (Exchange upper lower k) :=
  inferInstanceAs (Decidable (_ ∧ ∀ i < 32, _))

variable {upper lower k : UInt32}

theorem getLsbD_swap (h : Exchange upper lower k) (x : UInt32) {i : Nat} (hi : i < 32) :
    (swap upper lower k x).toBitVec.getLsbD i =
      if lower.toBitVec.getLsbD i then x.toBitVec.getLsbD (i + k.toNat)
      else x.toBitVec.getLsbD (i - k.toNat) := by
  obtain ⟨small, masks⟩ := h
  obtain ⟨one, up, down⟩ := masks i hi
  have shift : k.toNat % 32 = k.toNat := Nat.mod_eq_of_lt (UInt32.lt_iff_toNat_lt.mp small)
  have amount : (k.toBitVec % 32).toNat = k.toNat := by
    rw [BitVec.toNat_umod]
    exact shift
  simp only [swap, UInt32.toBitVec_or, UInt32.toBitVec_shiftRight, UInt32.toBitVec_shiftLeft,
    UInt32.toBitVec_and, BitVec.getLsbD_or, BitVec.ushiftRight_eq', BitVec.getLsbD_ushiftRight,
    BitVec.shiftLeft_eq', BitVec.getLsbD_shiftLeft, BitVec.getLsbD_and, amount, hi, decide_true,
    Bool.true_and]
  split_ifs with low
  · have high : upper.toBitVec.getLsbD (k.toNat + i) = true := by rw [Nat.add_comm]; exact up low
    -- a bit that comes down to `i` leaves none to come up to it
    have none : (!decide (i < k.toNat) && lower.toBitVec.getLsbD (i - k.toNat)) = false := by
      by_contra both
      obtain ⟨above, below⟩ := Bool.and_eq_true_iff.mp (Bool.eq_true_of_not_eq_false both)
      have twice := (masks (i - k.toNat) (by omega)).2.1 below
      rw [Nat.sub_add_cancel (by simpa using above), one, low] at twice
      cases twice
    rw [high, Nat.add_comm, Bool.and_true, Bool.and_left_comm, none, Bool.and_false, Bool.or_false]
  · have top : upper.toBitVec.getLsbD i = true := one.trans (by simpa using low)
    obtain ⟨above, below⟩ := down top
    have none : upper.toBitVec.getLsbD (k.toNat + i) = false := by
      by_contra both
      have both := Bool.eq_true_of_not_eq_false both
      have twice := ((masks _ (BitVec.lt_of_getLsbD both)).2.2 both).2
      rw [Nat.add_sub_cancel_left] at twice
      exact low twice
    simp [none, below, above]

theorem swap_swap (h : Exchange upper lower k) (x : UInt32) :
    swap upper lower k (swap upper lower k x) = x := by
  apply UInt32.toBitVec_inj.mp
  apply BitVec.eq_of_getLsbD_eq
  intro i hi
  obtain ⟨one, up, down⟩ := h.2 i hi
  rw [getLsbD_swap h _ hi]
  split_ifs with low
  · have inside : i + k.toNat < 32 := BitVec.lt_of_getLsbD (up low)
    have high := (h.2 _ inside).1
    rw [up low] at high
    rw [getLsbD_swap h x inside, if_neg (by simpa using high), Nat.add_sub_cancel]
  · obtain ⟨above, below⟩ := down (by simpa using one.trans (by simpa using low))
    rw [getLsbD_swap h x (by omega), if_pos below, Nat.sub_add_cancel above]

theorem computeV1Checksum_injective {c d : ChecksumCalculator}
    (h : c.computeV1Checksum = d.computeV1Checksum) :
    c.mV1BufferTotalLength = d.mV1BufferTotalLength := by
  have injective : ∀ {upper lower k : UInt32}, Exchange upper lower k →
      Function.Injective (swap upper lower k) :=
    fun exchange => Function.LeftInverse.injective (swap_swap exchange)
  have halves := injective (show Exchange 0xffff0000 0x0000ffff 16 by decide +kernel)
  have octets := injective (show Exchange 0xff00ff00 0x00ff00ff 8 by decide +kernel)
  have nibbles := injective (show Exchange 0xf0f0f0f0 0x0f0f0f0f 4 by decide +kernel)
  have pairs := injective (show Exchange 0xcccccccc 0x33333333 2 by decide +kernel)
  have bits := injective (show Exchange 0xaaaaaaaa 0x55555555 1 by decide +kernel)
  exact halves (octets (nibbles (pairs (bits h))))

theorem little_injective {m n : UInt32} (h : little 4 m.toNat = little 4 n.toNat) : m = n := by
  have same := congrArg ofLittle h
  have width : 256^4 = 2^32 := by decide
  rw [ofLittle_little, ofLittle_little, width, Nat.mod_eq_of_lt m.toNat_lt,
    Nat.mod_eq_of_lt n.toNat_lt] at same
  exact UInt32.toNat.inj same

/-- Two checksums agree where the lengths and the counts do. -/
theorem v1_eq_iff {c d : ChecksumCalculator} (hc : c.mVersion = 1) (hd : d.mVersion = 1) (m n : UInt32) :
    c.v1 m = d.v1 n ↔ c.mV1BufferTotalLength = d.mV1BufferTotalLength ∧ m = n := by
  rw [v1, v1, if_pos hc, if_pos hd]
  constructor
  · intro same
    obtain ⟨lengths, counts⟩ := List.append_inj same (by rw [length_little, length_little])
    exact ⟨computeV1Checksum_injective (little_injective lengths), little_injective counts⟩
  · intro same
    rw [computeV1Checksum, computeV1Checksum, same.1, same.2]

/-! Messages, each as the lengths of its buffers. -/

def addBuffers (c : ChecksumCalculator) (message : List Nat) : ChecksumCalculator :=
  message.foldl addBuffer c

def generate (c : ChecksumCalculator) (message : List Nat) :
    Option (List UInt8 × ChecksumCalculator) :=
  (c.addBuffers message).writeChecksum c.checksumByteSize

def check (c : ChecksumCalculator) (p : List Nat × List UInt8) : Option (Bool × ChecksumCalculator) :=
  some ((c.addBuffers p.1).validate p.2)

/-- Between two messages. -/
structure Between (c : ChecksumCalculator) : Prop where
  version : c.mVersion = 1
  length : c.mV1BufferTotalLength = 0

theorem addBuffers_eq {c : ChecksumCalculator} (version : c.mVersion = 1) (message : List Nat) :
    (c.addBuffers message).mVersion = 1 ∧
    (c.addBuffers message).mNumRead = c.mNumRead ∧
    (c.addBuffers message).mNumWrite = c.mNumWrite ∧
    (c.addBuffers message).mV1BufferTotalLength =
      c.mV1BufferTotalLength + UInt32.ofNat message.sum := by
  induction message generalizing c with
  | nil => exact ⟨version, rfl, rfl, by simp [addBuffers]⟩
  | cons n message ih =>
    obtain ⟨kept, read, write, length⟩ := ih (c := c.addBuffer n) version
    refine ⟨kept, read, write, ?_⟩
    change ((c.addBuffer n).addBuffers message).mV1BufferTotalLength = _
    rw [length, addBuffer, List.sum_cons, UInt32.ofNat_add]
    dsimp only
    rw [if_pos version, UInt32.add_assoc]

theorem Between.generates {c : ChecksumCalculator} (h : c.Between) (message : List Nat) :
    ∃ d, c.generate message = some ((c.addBuffers message).v1 c.mNumWrite, d) ∧ d.Between ∧
      d.mNumWrite = c.mNumWrite + 1 := by
  obtain ⟨version, read, write, length⟩ := addBuffers_eq h.version message
  have size : ¬ c.checksumByteSize < (c.addBuffers message).checksumByteSize := by
    rw [checksumByteSize, checksumByteSize, version, h.version]
    exact lt_irrefl _
  rw [generate, writeChecksum, if_neg size, write]
  refine ⟨_, rfl, ⟨version, ?_⟩, rfl⟩
  exact if_pos version

/-- The checksum of a message of version 1. -/
def checksum (message : List Nat) (count : Nat) : List UInt8 :=
  (ChecksumCalculator.addBuffers { init with mVersion := 1 } message).v1 (UInt32.ofNat count)

theorem checksum_eq_iff (m m' : List Nat) (n n' : Nat) :
    checksum m n = checksum m' n' ↔ m.sum % 2^32 = m'.sum % 2^32 ∧ n % 2^32 = n' % 2^32 := by
  have fresh := addBuffers_eq (c := { init with mVersion := 1 }) rfl
  rw [checksum, checksum, v1_eq_iff (fresh m).1 (fresh m').1, (fresh m).2.2.2, (fresh m').2.2.2]
  simp only [init, UInt32.zero_add, UInt32.ofNat_eq_iff_mod_eq_toNat, UInt32.toNat_ofNat']

theorem Between.v1_eq {c : ChecksumCalculator} (h : c.Between) (message : List Nat) (n : Nat) :
    (c.addBuffers message).v1 (UInt32.ofNat n) = checksum message n := by
  have fresh := addBuffers_eq (c := { init with mVersion := 1 }) rfl message
  have added := addBuffers_eq h.version message
  rw [checksum, v1_eq_iff added.1 fresh.1, added.2.2.2, fresh.2.2.2, h.length]
  exact ⟨rfl, rfl⟩

theorem Between.trace_generate {c : ChecksumCalculator} (h : c.Between) {n : Nat}
    (count : c.mNumWrite = UInt32.ofNat n) (messages : List (List Nat)) :
    (trace generate c messages).map Prod.fst =
      some ((messages.zipIdx n).map fun m => checksum m.1 m.2) := by
  induction messages generalizing c n with
  | nil => rfl
  | cons message messages ih =>
    obtain ⟨d, written, between, next⟩ := h.generates message
    have later : d.mNumWrite = UInt32.ofNat (n + 1) := by rw [next, count, UInt32.ofNat_add]; rfl
    rw [trace, written, Option.bind_some, Option.map_map]
    have rest := ih between later
    rw [Option.map_eq_some_iff] at rest
    obtain ⟨q, hq, sums⟩ := rest
    rw [hq, count, h.v1_eq]
    exact congrArg (fun rest => some (checksum message n :: rest)) sums

theorem Between.checks {c : ChecksumCalculator} (h : c.Between) {n : Nat}
    (count : c.mNumRead = UInt32.ofNat n) (p : List Nat × List UInt8) :
    ∃ d, c.check p = some (decide (checksum p.1 n = p.2), d) ∧ d.Between ∧
      d.mNumRead = UInt32.ofNat (n + 1) := by
  obtain ⟨version, read, write, length⟩ := addBuffers_eq h.version p.1
  rw [check, validate, read, count, h.v1_eq]
  refine ⟨_, rfl, ⟨version, if_pos version⟩, ?_⟩
  dsimp only
  rw [UInt32.ofNat_add]
  rfl

theorem Between.trace_check {c : ChecksumCalculator} (h : c.Between) {n : Nat}
    (count : c.mNumRead = UInt32.ofNat n) (ps : List (List Nat × List UInt8)) :
    (trace check c ps).map Prod.fst =
      some ((ps.zipIdx n).map fun p => decide (checksum p.1.1 p.2 = p.1.2)) := by
  induction ps generalizing c n with
  | nil => rfl
  | cons p ps ih =>
    obtain ⟨d, checked, between, later⟩ := h.checks count p
    rw [trace, checked, Option.bind_some, Option.map_map]
    have rest := ih between later
    rw [Option.map_eq_some_iff] at rest
    obtain ⟨q, hq, answers⟩ := rest
    rw [hq]
    exact congrArg (fun rest => some (decide (checksum p.1 n = p.2) :: rest)) answers

/-- A check accepts the checksum of a message of the same length that was generated as many
messages into its session as the check is into its own, both up to `2^32`, and no other. -/
theorem check_generated {messages : List (List Nat)} {sums : List (List UInt8)}
    {c : ChecksumCalculator} (generated : trace generate (init.setVersion 1).2 messages = some (sums, c))
    (presented : List (List Nat × Fin messages.length)) :
    (trace check (init.setVersion 1).2
        (presented.map fun p => (p.1, sums.getD p.2 []))).map Prod.fst =
      some (presented.zipIdx.map fun p =>
        decide (p.1.1.sum % 2^32 = (messages.get p.1.2).sum % 2^32 ∧ p.2 % 2^32 = p.1.2.val % 2^32)) := by
  have between : (init.setVersion 1).2.Between := ⟨rfl, rfl⟩
  have written := between.trace_generate (n := 0) rfl messages
  rw [generated] at written
  obtain rfl : sums = messages.zipIdx.map fun m => checksum m.1 m.2 := Option.some.inj written
  rw [between.trace_check (n := 0) rfl, List.zipIdx_map, List.map_map]
  congr 1
  apply List.map_congr_left
  intro p _
  have given : ((messages.zipIdx.map fun m => checksum m.1 m.2)).getD p.1.2 [] =
      checksum (messages.get p.1.2) p.1.2 := by
    simp [List.getD_eq_getElem?_getD]
  apply decide_eq_decide.mpr
  change checksum p.1.1 p.2 = (messages.zipIdx.map fun m => checksum m.1 m.2).getD p.1.2 [] ↔ _
  rw [given, checksum_eq_iff]

/-- Messages that arrive in another order than they were sent in are refused. -/
theorem check_out_of_order : ∃ sums c,
    trace generate (init.setVersion 1).2 [[5], [7, 2]] = some (sums, c) ∧
    (trace check (init.setVersion 1).2
      [([7, 2], sums.getD 1 []), ([5], sums.getD 0 [])]).map Prod.fst = some [false, false] :=
  ⟨_, _, rfl, @check_generated [[5], [7, 2]] _ _ rfl
    [([7, 2], ⟨1, by decide⟩), ([5], ⟨0, by decide⟩)]⟩

/-! Packets, in a session of either version. -/

def packetChecksum (version : UInt32) (length count : Nat) : List UInt8 :=
  if version = 1 then checksum [length] count else []

def byteSize (version : UInt32) : Nat := if version = 1 then 8 else 0

@[simp] theorem length_packetChecksum (version : UInt32) (length count : Nat) :
    (packetChecksum version length count).length = byteSize version := by
  unfold packetChecksum byteSize
  split_ifs
  · rw [checksum, v1, if_pos (addBuffers_eq rfl [length]).1, List.length_append, length_little,
      length_little]
  · rfl

/-- Between two packets of a session, so many of which were read and written. -/
structure Idle (version : UInt32) (read write : Nat) (c : ChecksumCalculator) : Prop where
  kind : c.mVersion = version
  total : version = 1 → c.mV1BufferTotalLength = 0
  reads : version = 1 → c.mNumRead = UInt32.ofNat read
  writes : version = 1 → c.mNumWrite = UInt32.ofNat write

/-- In the middle of a packet, of which `length` bytes were added. -/
structure Adding (version : UInt32) (read write length : Nat) (c : ChecksumCalculator) : Prop where
  kind : c.mVersion = version
  total : version = 1 → c.mV1BufferTotalLength = UInt32.ofNat length
  reads : version = 1 → c.mNumRead = UInt32.ofNat read
  writes : version = 1 → c.mNumWrite = UInt32.ofNat write

variable {version : UInt32} {read write length : Nat} {c : ChecksumCalculator}

theorem Idle.adding (h : Idle version read write c) : Adding version read write 0 c :=
  ⟨h.kind, h.total, h.reads, h.writes⟩

theorem Adding.added (h : Adding version read write length c) (n : Nat) :
    Adding version read write (length + n) (c.addBuffer n) := by
  refine ⟨h.kind, fun v => ?_, h.reads, h.writes⟩
  rw [addBuffer]
  dsimp only
  rw [if_pos (h.kind.trans v), h.total v, UInt32.ofNat_add]

theorem Adding.v1_eq (h : Adding 1 read write length c) (count : Nat) :
    c.v1 (UInt32.ofNat count) = checksum [length] count := by
  have fresh := addBuffers_eq (c := { init with mVersion := 1 }) rfl [length]
  rw [checksum, v1_eq_iff h.kind fresh.1, h.total rfl, fresh.2.2.2, List.sum_singleton]
  exact ⟨(UInt32.zero_add _).symm, rfl⟩

theorem Adding.byteSize_eq (h : Adding version read write length c) :
    c.checksumByteSize = byteSize version := by
  rw [checksumByteSize, byteSize, h.kind]

theorem Adding.written (h : Adding 1 read write length c) :
    ∃ d, c.writeChecksum (byteSize 1) = some (packetChecksum 1 length write, d) ∧
      Idle 1 read (write + 1) d := by
  rw [writeChecksum, h.byteSize_eq, if_neg (Nat.lt_irrefl _), h.writes rfl, h.v1_eq]
  refine ⟨_, rfl, h.kind, fun _ => if_pos h.kind, h.reads, fun _ => ?_⟩
  dsimp only
  rw [UInt32.ofNat_add]
  rfl

theorem Adding.validated (h : Adding 1 read write length c) (expected : List UInt8) :
    (c.validate expected).1 = decide (packetChecksum 1 length read = expected) ∧
      Idle 1 (read + 1) write (c.validate expected).2 := by
  rw [validate, h.reads rfl, h.v1_eq]
  refine ⟨rfl, h.kind, fun _ => if_pos h.kind, fun _ => ?_, h.writes⟩
  dsimp only
  rw [UInt32.ofNat_add]
  rfl

end ChecksumCalculator

end Anbox.Emugen
