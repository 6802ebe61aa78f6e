import Anbox.Emugen.ChecksumCalculator
import Anbox.Emugen.EntryPoint
import Anbox.Emugen.QemuPipeStream

namespace Anbox.Emugen

open Anbox.Framework

/-- What the encoder contexts of a connection share. -/
structure Client where
  mStream : QemuPipeStream
  mChecksumCalculator : ChecksumCalculator
  deriving DecidableEq

namespace Client

def useChecksum (x : Client) : Bool := x.mChecksumCalculator.mVersion > 0

/-- `if (useChecksum) checksumCalculator->addBuffer(buf, len)` -/
def addBuffer (x : Client) (len : Nat) : Client :=
  if x.useChecksum then { x with mChecksumCalculator := x.mChecksumCalculator.addBuffer len } else x

/-- `if (useChecksum) checksumCalculator->writeChecksum(buf, checksumSize)` -/
def writeChecksum (x : Client) : List UInt8 × ChecksumCalculator :=
  if x.useChecksum then
    (x.mChecksumCalculator.writeChecksum x.mChecksumCalculator.checksumByteSize).getD
      ([], x.mChecksumCalculator)
  else ([], x.mChecksumCalculator)

def flush (x : Client) : Client := { x with mStream := x.mStream.flush }

/-- A fragment: `size` bytes are allocated, and those of its fields are packed into them. -/
def fragment (x : Client) (size : Nat) (bytes : List UInt8) (fresh : Nat → UInt8) : Client :=
  ({ x with mStream := x.mStream.pack size bytes fresh } : Client).addBuffer bytes.length

def write (x : Client) (bytes : List UInt8) : Client :=
  ({ x with mStream := x.mStream.writeFully bytes } : Client).addBuffer bytes.length

/-- `writeVarLargeEncodingExpression` -/
def writeLarge (x : Client) : Field → Client
  | .value _ => x
  | .pointer p =>
    if p.nullAllowed ∧ p.memory = none then x.write (little 4 p.size)
    else (x.write (little 4 p.size)).write (Field.data p)

/-- The fields up to a large one go into one fragment, of which the size and the bytes so far are
known; it is flushed before the large one is written. -/
def encodeFields (fresh : Nat → UInt8) : List Field → Option (Nat × List UInt8) → Client → Client
  | [], none, x => x
  | [], some q, x => x.fragment q.1 q.2 fresh
  | f :: fs, none, x =>
    if f.isLarge then encodeFields fresh fs none (x.writeLarge f)
    else encodeFields fresh fs (some (f.encodingSize, f.encoding)) x
  | f :: fs, some q, x =>
    if f.isLarge then encodeFields fresh fs none ((x.fragment q.1 q.2 fresh).flush.writeLarge f)
    else encodeFields fresh fs (some (q.1 + f.encodingSize, q.2 ++ f.encoding)) x

/-- `totalSize`; sums with a `__size_` variable are of 32 bits. -/
def totalSize (fs : List Field) (checksumSize : Nat) : Nat :=
  (8 + (fs.map Field.encodingSize).sum) % 2^32 + checksumSize

/-- What `genEncoderImpl` writes for an entry point, up to the reading of the answer. -/
def encode (x : Client) (opcode : Nat) (fs : List Field) (fresh : Nat → UInt8) : Client :=
  let checksumSize := x.mChecksumCalculator.checksumByteSize
  let header := little 4 opcode ++ little 4 (totalSize fs checksumSize)
  if fs.any Field.isLarge then
    let y := x.encodeFields fresh fs (some (8, header))
    ⟨y.mStream.pack checksumSize y.writeChecksum.1 fresh, y.writeChecksum.2⟩
  else
    let bytes := header ++ fs.flatMap Field.encoding
    let y := x.addBuffer bytes.length
    ⟨y.mStream.pack (totalSize fs checksumSize) (bytes ++ y.writeChecksum.1) fresh,
      y.writeChecksum.2⟩

/-- A packet up to its checksum. -/
def body (version : UInt32) (opcode : Nat) (fs : List Field) : List UInt8 :=
  little 4 opcode ++ little 4 (totalSize fs (ChecksumCalculator.byteSize version)) ++
    fs.flatMap Field.encoding

def packet (version : UInt32) (count opcode : Nat) (fs : List Field) : List UInt8 :=
  body version opcode fs ++
    ChecksumCalculator.packetChecksum version (body version opcode fs).length count

variable {version : UInt32} {read write : Nat} {x y z : Client}

/-- Bytes were added to the stream and to the checksum. -/
structure Extends (version : UInt32) (x y : Client) (bytes : List UInt8) : Prop where
  inside : x.mStream.Inside → y.mStream.Inside
  pending : x.mStream.Inside → y.mStream.pending = x.mStream.pending ++ bytes
  adding : ∀ {read write n : Nat},
    ChecksumCalculator.Adding version read write n x.mChecksumCalculator →
    ChecksumCalculator.Adding version read write (n + bytes.length) y.mChecksumCalculator

theorem Extends.trans {as bs : List UInt8} (h : Extends version x y as) (k : Extends version y z bs) :
    Extends version x z (as ++ bs) := by
  refine ⟨fun inside => k.inside (h.inside inside), fun inside => ?_, fun adding => ?_⟩
  · rw [k.pending (h.inside inside), h.pending inside, List.append_assoc]
  · rw [List.length_append, ← Nat.add_assoc]
    exact k.adding (h.adding adding)

theorem addBuffer_adding {n : Nat} (len : Nat)
    (h : ChecksumCalculator.Adding version read write n x.mChecksumCalculator) :
    ChecksumCalculator.Adding version read write (n + len)
      (x.addBuffer len).mChecksumCalculator := by
  unfold addBuffer
  split_ifs with use
  · exact h.added len
  · -- without checksums there is nothing to add to
    have zero : version ≠ 1 := by
      rintro rfl
      rw [useChecksum, h.kind] at use
      exact use rfl
    exact ⟨h.kind, fun one => absurd one zero, h.reads, h.writes⟩

theorem addBuffer_stream (x : Client) (len : Nat) : (x.addBuffer len).mStream = x.mStream := by
  unfold addBuffer
  split_ifs
  · rfl
  · rfl

/-- A fragment that is filled. -/
theorem extends_fragment (x : Client) (bytes : List UInt8) (fresh : Nat → UInt8) :
    Extends version x (x.fragment bytes.length bytes fresh) bytes := by
  refine ⟨fun inside => ?_, fun inside => ?_, fun adding => addBuffer_adding _ adding⟩
  · rw [fragment, addBuffer_stream]
    exact (inside.pack (Nat.le_refl _) fresh).1
  · obtain ⟨-, stale, length, pending⟩ := inside.pack (Nat.le_refl bytes.length) fresh
    obtain rfl : stale = [] := List.eq_nil_of_length_eq_zero (by omega)
    rw [fragment, addBuffer_stream, pending, List.append_nil]

theorem extends_write (empty : x.mStream.held = []) (bytes : List UInt8) :
    Extends version x (x.write bytes) bytes := by
  refine ⟨fun inside => ?_, fun inside => ?_, fun adding => addBuffer_adding _ adding⟩
  · rw [write, addBuffer_stream]
    exact inside.writeFully bytes
  · rw [write, addBuffer_stream]
    exact QemuPipeStream.writeFully_pending empty bytes

theorem held_write (empty : x.mStream.held = []) (bytes : List UInt8) :
    (x.write bytes).mStream.held = [] := by
  rw [write, addBuffer_stream]
  exact empty

theorem extends_flush (x : Client) : Extends version x x.flush [] :=
  ⟨fun inside => inside.flush,
    fun _ => (QemuPipeStream.pending_flush x.mStream).trans (List.append_nil _).symm,
    fun adding => adding⟩

variable {γ : Type*}

theorem extends_writeLarge {v : Var γ} {f : Field} (h : Field.Of v f) (large : f.isLarge = true)
    (sent : f.isOut = false) (empty : x.mStream.held = []) :
    Extends version x (x.writeLarge f) f.encoding ∧ (x.writeLarge f).mStream.held = [] := by
  cases h with
  | value bytes => cases large
  | @pointer p f dir allowed same size memory written =>
    have read : f.pointerDir ≠ .POINTER_OUT := by simpa [Field.isOut] using sent
    have header : Extends version x _ _ := extends_write empty (little 4 f.size)
    have later := held_write empty (little 4 f.size)
    rw [writeLarge, Field.encoding, if_neg read]
    split_ifs with null
    · have none : Field.data f = [] := by rw [Field.data, null.2]; exact List.take_nil
      rw [none, List.append_nil]
      exact ⟨header, later⟩
    · exact ⟨header.trans (extends_write later _), held_write later _⟩

theorem length_encoding_of_sent {v : Var γ} {f : Field} (h : Field.Of v f) (sent : f.isOut = false) :
    f.encoding.length = f.encodingSize := by
  have length := h.length_encoding
  cases h with
  | value bytes => rfl
  | pointer dir null large size memory written =>
    rw [Field.unwritten, if_neg (by simpa [Field.isOut] using sent), Nat.add_zero] at length
    exact length

/-- All fields of an entry point without outputs are sent, in their order. -/
theorem extends_encodeFields (fresh : Nat → UInt8) {vs : List (Var γ)} {fs : List Field}
    (h : List.Forall₂ Field.Of vs fs) (sent : ∀ f ∈ fs, f.isOut = false) (x : Client) :
    (x.mStream.held = [] →
      Extends version x (x.encodeFields fresh fs none) (fs.flatMap Field.encoding)) ∧
    ∀ bytes : List UInt8, Extends version x (x.encodeFields fresh fs (some (bytes.length, bytes)))
      (bytes ++ fs.flatMap Field.encoding) := by
  induction h generalizing x with
  | nil =>
    constructor
    · intro _
      exact ⟨id, fun _ => (List.append_nil _).symm, fun adding => adding⟩
    · intro bytes
      rw [List.flatMap_nil, List.append_nil]
      exact extends_fragment x bytes fresh
  | @cons v f vs fs first rest ih =>
    obtain ⟨out, later⟩ := List.forall_mem_cons.mp sent
    have size := length_encoding_of_sent first out
    constructor
    · intro empty
      rw [encodeFields, List.flatMap_cons]
      split_ifs with large
      · obtain ⟨written, still⟩ := extends_writeLarge first large out empty
        exact written.trans ((ih later _).1 still)
      · rw [← size]
        exact (ih later x).2 f.encoding
    · intro bytes
      rw [encodeFields, List.flatMap_cons]
      split_ifs with large
      · have ready : Extends version x _ (bytes ++ []) :=
          (extends_fragment x bytes fresh).trans (extends_flush _)
        rw [List.append_nil] at ready
        have flushed : (x.fragment bytes.length bytes fresh).flush.mStream.held = [] :=
          QemuPipeStream.held_flush _
        obtain ⟨written, still⟩ := extends_writeLarge first large out flushed
        exact ready.trans (written.trans ((ih later _).1 still))
      · rw [← size, ← List.length_append, ← List.append_assoc]
        exact (ih later x).2 (bytes ++ f.encoding)

theorem writeChecksum_eq (known : version = 0 ∨ version = 1) {n : Nat}
    (h : ChecksumCalculator.Adding version read write n x.mChecksumCalculator) :
    x.writeChecksum.1 = ChecksumCalculator.packetChecksum version n write ∧
      ChecksumCalculator.Idle version read (write + 1) x.writeChecksum.2 := by
  unfold writeChecksum useChecksum
  rw [h.kind]
  cases known with
  | inl zero =>
    subst zero
    exact ⟨rfl, h.kind, nofun, nofun, nofun⟩
  | inr one =>
    subst one
    obtain ⟨d, written, idle⟩ := h.written
    rw [if_pos (by decide), h.byteSize_eq, written]
    exact ⟨rfl, idle⟩

/-- How far a packet is from filling the bytes that are allocated for it. -/
theorem length_body {vs : List (Var γ)} {fs : List Field} (h : List.Forall₂ Field.Of vs fs)
    (version : UInt32) (opcode : Nat) : (body version opcode fs).length + (fs.map Field.unwritten).sum =
      8 + (fs.map Field.encodingSize).sum := by
  have fields : (fs.flatMap Field.encoding).length + (fs.map Field.unwritten).sum =
      (fs.map Field.encodingSize).sum := by
    induction h with
    | nil => rfl
    | cons first rest ih =>
      have length := first.length_encoding
      rw [List.flatMap_cons, List.length_append, List.map_cons, List.map_cons, List.sum_cons,
        List.sum_cons]
      omega
  rw [body, List.length_append, List.length_append, length_little, length_little]
  omega

/-- Nothing is left unwritten where there are no outputs. -/
theorem unwritten_of_sent {fs : List Field} (sent : ∀ f ∈ fs, f.isOut = false) :
    (fs.map Field.unwritten).sum = 0 := by
  rw [List.sum_eq_zero_iff_forall_eq_nat]
  intro n hn
  obtain ⟨f, hf, rfl⟩ := List.mem_map.mp hn
  cases f with
  | value bytes => rfl
  | pointer p => exact if_neg (by simpa [Field.isOut] using sent _ hf)

/-- A call's packet is sent behind what was sent before. Outputs take room in it that nothing is
written to, so that old bytes of the buffer stand there behind the checksum. -/
theorem encode_sends (known : version = 0 ∨ version = 1) (inside : x.mStream.Inside)
    (idle : ChecksumCalculator.Idle version read write x.mChecksumCalculator)
    {vs : List (Var γ)} {fs : List Field} (h : List.Forall₂ Field.Of vs fs)
    (sent : fs.any Field.isLarge = true → ∀ f ∈ fs, f.isOut = false)
    (fits : 8 + (fs.map Field.encodingSize).sum < 2^32) (opcode : Nat) (fresh : Nat → UInt8) :
    (x.encode opcode fs fresh).mStream.Inside ∧
    ChecksumCalculator.Idle version read (write + 1) (x.encode opcode fs fresh).mChecksumCalculator ∧
    ∃ stale : List UInt8, (packet version write opcode fs).length + stale.length =
        totalSize fs (ChecksumCalculator.byteSize version) ∧
      (x.encode opcode fs fresh).mStream.pending =
        x.mStream.pending ++ packet version write opcode fs ++ stale := by
  have room := length_body h version opcode
  have total : totalSize fs (ChecksumCalculator.byteSize version) =
      8 + (fs.map Field.encodingSize).sum + ChecksumCalculator.byteSize version := by
    rw [totalSize, Nat.mod_eq_of_lt fits]
  unfold encode
  rw [idle.adding.byteSize_eq]
  dsimp only
  split_ifs with large
  · have filled := unwritten_of_sent (sent large)
    have header : (little 4 opcode ++
        little 4 (totalSize fs (ChecksumCalculator.byteSize version))).length = 8 := by
      rw [List.length_append, length_little, length_little]
    have fields : Extends version x _ (body version opcode fs) :=
      (extends_encodeFields fresh h (sent large) x).2 _
    rw [header] at fields
    obtain ⟨written, next⟩ := writeChecksum_eq known (fields.adding idle.adding)
    rw [Nat.zero_add] at written
    have size := congrArg List.length written
    rw [ChecksumCalculator.length_packetChecksum] at size
    obtain ⟨still, stale, length, pending⟩ := (fields.inside inside).pack (Nat.le_of_eq size) fresh
    refine ⟨still, next, stale, ?_, ?_⟩
    · rw [packet, List.length_append, ChecksumCalculator.length_packetChecksum]
      omega
    · rw [pending, fields.pending inside, written, packet]
      simp only [List.append_assoc]
  · obtain ⟨written, next⟩ := writeChecksum_eq known
      (addBuffer_adding (body version opcode fs).length idle.adding)
    rw [Nat.zero_add] at written
    have length : (body version opcode fs ++ ChecksumCalculator.packetChecksum version
        (body version opcode fs).length write).length ≤
        totalSize fs (ChecksumCalculator.byteSize version) := by
      rw [List.length_append, ChecksumCalculator.length_packetChecksum]
      omega
    have stream := addBuffer_stream x (body version opcode fs).length
    rw [← written] at length
    rw [← stream] at inside
    obtain ⟨still, stale, rest, pending⟩ := inside.pack length fresh
    refine ⟨still, next, stale, ?_, ?_⟩
    · rw [packet, ← written]
      exact rest
    · rw [packet, ← written, ← stream]
      exact pending

end Client

end Anbox.Emugen
