import Anbox.Emugen.Encoder

namespace Anbox.Emugen

open Anbox.Framework

variable {γ σ : Type*}

/-- The entry points of a decoder; `genOpcodes` numbers them from the base on. -/
structure Api (γ : Type*) where
  baseOpcode : Nat
  entries : List (EntryPoint γ)

def Api.find (a : Api γ) (opcode : Nat) : Option (EntryPoint γ) :=
  if a.baseOpcode ≤ opcode then a.entries[opcode - a.baseOpcode]? else none

/-- `totalTmpBuffExist` -/
def EntryPoint.replies (e : EntryPoint γ) : Bool :=
  e.vars.any Var.isOut || e.retval.isValue

def Field.Received.outputSize : Field.Received → Option Nat
  | .output size => some (size.getD 0)
  | _ => none

/-- The parts of `tmpBuf`: one for each output, and one for the return value. -/
def EntryPoint.tmpSizes (e : EntryPoint γ) (rs : List Field.Received) : List Nat :=
  rs.filterMap Field.Received.outputSize ++ e.retval.sizes

/-- The functions as the decoders of one thread call them, on what all threads share and what each has
of its own (its contexts and surfaces), and what each of them leaves in the parts of `tmpBuf`. -/
structure Host (γ σ : Type*) where
  exec : σ → EntryPoint γ → List Field.Received → List (List UInt8) × σ
  tmpSizes : ∀ s e rs, (exec s e rs).1.map List.length = e.tmpSizes rs

/-- What goes wrong in a decoder: it reads what was not received, a checksum is not right and the
process is aborted, or it does not come to an end. -/
inductive Fault where
  | beyond
  | invalid
  | endless
  deriving DecidableEq

/-- A call as the host's function is called. -/
structure Request (γ : Type*) where
  entry : EntryPoint γ
  opcode : Nat
  received : List Field.Received

/-- A call that was made, and what it left in `tmpBuf`. -/
structure Executed (γ : Type*) extends Request γ where
  answers : List (List UInt8)

structure RenderThread (γ σ : Type*) where
  host : σ
  calls : List (Executed γ)
  protocol : ChecksumCalculator
  sent : List UInt8

namespace RenderThread

/-- `ChecksumCalculatorThreadInfo::validOrDie` -/
def validOrDie (t : RenderThread γ σ) (bufLen : Nat) (checksum : List UInt8) :
    Except Fault (RenderThread γ σ) :=
  let q := (t.protocol.addBuffer bufLen).validate checksum
  if q.1 then .ok { t with protocol := q.2 } else .error .invalid

/-- `ChecksumCalculatorThreadInfo::writeChecksum` -/
def writeChecksum (t : RenderThread γ σ) (bufLen : Nat) : List UInt8 × ChecksumCalculator :=
  ((t.protocol.addBuffer bufLen).writeChecksum t.protocol.checksumByteSize).getD
    ([], t.protocol.addBuffer bufLen)

def useChecksum (t : RenderThread γ σ) : Bool := t.protocol.mVersion > 0

/-- The checksum stands behind the parameters that were parsed. -/
def check (t : RenderThread γ σ) (b rest : List UInt8) : Except Fault (RenderThread γ σ) :=
  if t.useChecksum then
    match splitFront t.protocol.checksumByteSize rest with
    | none => .error .beyond
    | some q => t.validOrDie (b.length - rest.length) q.1
  else .ok t

/-- `tmpBuf` is sent back. -/
def sendBack (t : RenderThread γ σ) (tmpBuf : List UInt8) : RenderThread γ σ :=
  if t.useChecksum then
    let sum := t.writeChecksum tmpBuf.length
    { t with protocol := sum.2, sent := t.sent ++ (tmpBuf ++ sum.1) }
  else { t with sent := t.sent ++ tmpBuf }

def call (H : Host γ σ) (t : RenderThread γ σ) (e : EntryPoint γ) (opcode : Nat)
    (rs : List Field.Received) : RenderThread γ σ :=
  let q := H.exec t.host e rs
  let u : RenderThread γ σ := { t with host := q.2, calls := t.calls ++ [⟨⟨e, opcode, rs⟩, q.1⟩] }
  if e.replies then u.sendBack q.1.flatten else u

/-- The case of an entry point in a decoder's switch. -/
def handle (H : Host γ σ) (t : RenderThread γ σ) (e : EntryPoint γ) (opcode : Nat) (b : List UInt8) :
    Except Fault (RenderThread γ σ) :=
  match EntryPoint.parse e.vars (b.drop 8) with
  | none => .error .beyond
  | some q => (t.check b q.2).map fun t => t.call H e opcode q.1

/-- A decoder's `decode`, in so many rounds of its loop at most. -/
def decode (H : Host γ σ) (a : Api γ) : Nat → RenderThread γ σ → List UInt8 →
    Except Fault (Nat × RenderThread γ σ)
  | 0, _, _ => .error .endless
  | rounds + 1, t, b =>
    let packetLen := ofLittle ((b.drop 4).take 4)
    if b.length < 8 ∨ b.length < packetLen then .ok (0, t)
    else match a.find (ofLittle (b.take 4)) with
      | none => .ok (0, t)
      | some e =>
        match t.handle H e (ofLittle (b.take 4)) b with
        | .error fault => .error fault
        | .ok t => (decode H a rounds t (b.drop packetLen)).map fun q => (packetLen + q.1, q.2)

/-- One round of the loop in `main`: each decoder in its turn, and whether there was progress. -/
def pass (H : Host γ σ) : List (Api γ) → RenderThread γ σ → List UInt8 →
    Except Fault (Bool × RenderThread γ σ × List UInt8)
  | [], t, b => .ok (false, t, b)
  | a :: as, t, b =>
    match t.decode H a (b.length + 1) b with
    | .error fault => .error fault
    | .ok (last, t) => (pass H as t (b.drop last)).map fun q => (last > 0 || q.1, q.2)

end RenderThread

/-! Packets of calls. -/

/-- A call as its packet tells it, with the old bytes behind the checksum. -/
structure Packet (γ : Type*) where
  entry : EntryPoint γ
  opcode : Nat
  fields : List Field
  stale : List UInt8

namespace Packet

def request (p : Packet γ) : Request γ := ⟨p.entry, p.opcode, p.fields.map Field.received⟩

def bytes (version : UInt32) (count : Nat) (p : Packet γ) : List UInt8 :=
  Client.packet version count p.opcode p.fields ++ p.stale

/-- The packet is as long as it says, and its fields are those of its entry point. -/
structure WellFormed (version : UInt32) (p : Packet γ) : Prop where
  fields : List.Forall₂ Field.Of p.entry.vars p.fields
  opcode : p.opcode < 2^32
  small : Client.totalSize p.fields (ChecksumCalculator.byteSize version) < 2^32
  length : ∀ count, (p.bytes version count).length =
    Client.totalSize p.fields (ChecksumCalculator.byteSize version)

/-- One packet behind the other, with the numbers that go into their checksums. -/
def stream (version : UInt32) : Nat → List (Packet γ) → List UInt8
  | _, [] => []
  | count, p :: ps => p.bytes version count ++ stream version (count + 1) ps

variable {version : UInt32} {p : Packet γ} {ps : List (Packet γ)} {count : Nat}

theorem stream_append (qs : List (Packet γ)) :
    stream version count (ps ++ qs) =
      stream version count ps ++ stream version (count + ps.length) qs := by
  induction ps generalizing count with
  | nil => rfl
  | cons p ps ih =>
    rw [List.cons_append, stream, stream, ih, List.append_assoc, List.length_cons]
    congr 3
    omega

/-- What a packet begins with. -/
theorem bytes_eq (version : UInt32) (count : Nat) (p : Packet γ) : ∃ rest,
    p.bytes version count = little 4 p.opcode ++ (little 4 (Client.totalSize p.fields
      (ChecksumCalculator.byteSize version)) ++ rest) := by
  rw [bytes, Client.packet, Client.body]
  simp only [List.append_assoc]
  exact ⟨_, rfl⟩

theorem WellFormed.header (h : p.WellFormed version) (count : Nat) (tail : List UInt8) :
    ofLittle ((p.bytes version count ++ tail).take 4) = p.opcode ∧
    ofLittle (((p.bytes version count ++ tail).drop 4).take 4) = (p.bytes version count).length ∧
    8 ≤ (p.bytes version count).length := by
  have width : 256^4 = 2^32 := by decide
  have length := h.length count
  obtain ⟨rest, bytes⟩ := bytes_eq version count p
  rw [bytes] at length ⊢
  rw [length, List.append_assoc, List.take_left' (length_little 4 _),
    List.drop_left' (length_little 4 _), List.append_assoc, List.take_left' (length_little 4 _),
    ofLittle_little, ofLittle_little, width, Nat.mod_eq_of_lt h.opcode, Nat.mod_eq_of_lt h.small]
  refine ⟨rfl, rfl, ?_⟩
  rw [← length, List.length_append, List.length_append, length_little, length_little]
  omega

end Packet

/-! What a thread makes of a packet. -/

/-- The bytes that are sent back for a call. -/
def Executed.reply (version : UInt32) (count : Nat) (x : Executed γ) : List UInt8 :=
  if x.entry.replies then
    x.answers.flatten ++
      ChecksumCalculator.packetChecksum version x.answers.flatten.length count
  else []

/-- The call of a packet. -/
def Host.executed (H : Host γ σ) (s : σ) (p : Packet γ) : Executed γ :=
  ⟨p.request, (H.exec s p.entry (p.fields.map Field.received)).1⟩

def Host.after (H : Host γ σ) (s : σ) (p : Packet γ) : σ :=
  (H.exec s p.entry (p.fields.map Field.received)).2

namespace RenderThread

variable {H : Host γ σ} {version : UInt32} {read write : Nat} {t u : RenderThread γ σ} {p : Packet γ}

theorem useChecksum_eq (h : ChecksumCalculator.Idle version read write t.protocol) :
    t.useChecksum = decide (version > 0) := by
  rw [useChecksum, h.kind]

theorem check_packet (known : version = 0 ∨ version = 1)
    (h : ChecksumCalculator.Idle version read write t.protocol) (before tail : List UInt8) :
    ∃ d, ChecksumCalculator.Idle version (read + 1) write d ∧
      t.check (before ++ (ChecksumCalculator.packetChecksum version before.length read ++ tail))
        (ChecksumCalculator.packetChecksum version before.length read ++ tail) =
        .ok { t with protocol := d } := by
  unfold check
  rw [useChecksum_eq h]
  cases known with
  | inl zero =>
    subst zero
    exact ⟨t.protocol, ⟨h.kind, nofun, nofun, nofun⟩, rfl⟩
  | inr one =>
    subst one
    have adding := h.adding.added before.length
    rw [Nat.zero_add] at adding
    have size := ChecksumCalculator.length_packetChecksum 1 before.length read
    obtain ⟨accepted, idle⟩ := adding.validated (ChecksumCalculator.packetChecksum 1 before.length read)
    refine ⟨_, idle, ?_⟩
    rw [if_pos (by decide), h.adding.byteSize_eq, splitFront_append size, List.length_append,
      Nat.add_sub_cancel]
    dsimp only
    rw [validOrDie, if_pos (by rw [accepted]; exact decide_eq_true rfl)]

theorem writeChecksum_eq (h : ChecksumCalculator.Idle 1 read write t.protocol) (bufLen : Nat) :
    (t.writeChecksum bufLen).1 = ChecksumCalculator.packetChecksum 1 bufLen write ∧
      ChecksumCalculator.Idle 1 read (write + 1) (t.writeChecksum bufLen).2 := by
  have adding := h.adding.added bufLen
  rw [Nat.zero_add] at adding
  obtain ⟨d, written, idle⟩ := adding.written
  rw [writeChecksum, h.adding.byteSize_eq, written]
  exact ⟨rfl, idle⟩

theorem sendBack_eq (known : version = 0 ∨ version = 1)
    (h : ChecksumCalculator.Idle version read write t.protocol) (tmpBuf : List UInt8) :
    (t.sendBack tmpBuf).host = t.host ∧ (t.sendBack tmpBuf).calls = t.calls ∧
    (t.sendBack tmpBuf).sent =
      t.sent ++ (tmpBuf ++ ChecksumCalculator.packetChecksum version tmpBuf.length write) ∧
    ChecksumCalculator.Idle version read (write + 1) (t.sendBack tmpBuf).protocol := by
  unfold sendBack
  rw [useChecksum_eq h]
  cases known with
  | inl zero =>
    subst zero
    rw [ChecksumCalculator.packetChecksum, if_neg (by decide), if_neg (by decide), List.append_nil]
    exact ⟨rfl, rfl, rfl, h.kind, nofun, nofun, nofun⟩
  | inr one =>
    subst one
    obtain ⟨written, idle⟩ := writeChecksum_eq h tmpBuf.length
    rw [if_pos (by decide), ← written]
    exact ⟨rfl, rfl, rfl, idle⟩

theorem call_replies (H : Host γ σ) (known : version = 0 ∨ version = 1)
    (h : ChecksumCalculator.Idle version read write t.protocol) (p : Packet γ) {u : RenderThread γ σ}
    (hu : t.call H p.entry p.opcode (p.fields.map Field.received) = u) :
    u.host = H.after t.host p ∧ u.calls = t.calls ++ [H.executed t.host p] ∧
    u.sent = t.sent ++ (H.executed t.host p).reply version write ∧
    ChecksumCalculator.Idle version read (write + p.entry.replies.toNat) u.protocol := by
  have entry : (H.executed t.host p).entry = p.entry := rfl
  rw [Executed.reply, entry]
  subst hu
  unfold call
  cases replies : p.entry.replies with
  | false =>
    exact ⟨rfl, rfl, (List.append_nil _).symm, h⟩
  | true =>
    have called : ChecksumCalculator.Idle version read write
        (RenderThread.mk (H.after t.host p) (t.calls ++ [H.executed t.host p]) t.protocol
          t.sent).protocol := h
    exact sendBack_eq known called (H.executed t.host p).answers.flatten

/-- A packet that is there is handled: its call is made with what was sent. -/
theorem handle_packet (H : Host γ σ) (known : version = 0 ∨ version = 1)
    (h : ChecksumCalculator.Idle version read write t.protocol) (wf : p.WellFormed version)
    (tail : List UInt8) :
    ∃ u, t.handle H p.entry p.opcode (p.bytes version read ++ tail) = .ok u ∧
      u.host = H.after t.host p ∧ u.calls = t.calls ++ [H.executed t.host p] ∧
      u.sent = t.sent ++ (H.executed t.host p).reply version write ∧
      ChecksumCalculator.Idle version (read + 1) (write + p.entry.replies.toNat) u.protocol := by
  have header : (little 4 p.opcode ++ little 4 (Client.totalSize p.fields
      (ChecksumCalculator.byteSize version))).length = 8 := by
    rw [List.length_append, length_little, length_little]
  have split : p.bytes version read ++ tail = Client.body version p.opcode p.fields ++
      (ChecksumCalculator.packetChecksum version (Client.body version p.opcode p.fields).length read ++
        (p.stale ++ tail)) := by
    rw [Packet.bytes, Client.packet]
    simp only [List.append_assoc]
  obtain ⟨d, idle, checked⟩ :=
    check_packet known h (Client.body version p.opcode p.fields) (p.stale ++ tail)
  have parsed : EntryPoint.parse p.entry.vars ((p.bytes version read ++ tail).drop 8) =
      some (p.fields.map Field.received, ChecksumCalculator.packetChecksum version
        (Client.body version p.opcode p.fields).length read ++ (p.stale ++ tail)) := by
    rw [split, Client.body, List.append_assoc, List.drop_left' header]
    exact parse_encoding wf.fields _
  rw [handle, parsed]
  dsimp only
  rw [split, checked, Except.map]
  exact ⟨_, rfl, call_replies (t := { t with protocol := d }) H known idle p rfl⟩

end RenderThread

/-- The calls of packets, made one after the other. -/
def Host.serve (H : Host γ σ) : σ → List (Packet γ) → List (Executed γ) × σ
  | s, [] => ([], s)
  | s, p :: ps => (H.executed s p :: (serve H (H.after s p) ps).1, (serve H (H.after s p) ps).2)

theorem Host.serve_append (H : Host γ σ) (s : σ) (ps qs : List (Packet γ)) :
    H.serve s (ps ++ qs) = ((H.serve s ps).1 ++ (H.serve (H.serve s ps).2 qs).1,
      (H.serve (H.serve s ps).2 qs).2) := by
  induction ps generalizing s with
  | nil => rfl
  | cons p ps ih => rw [List.cons_append, serve, ih]; rfl

/-- What is sent back for calls. -/
def replies (version : UInt32) : Nat → List (Executed γ) → List UInt8
  | _, [] => []
  | count, x :: xs => x.reply version count ++ replies version (count + x.entry.replies.toNat) xs

/-- How many of the calls are answered. -/
def answered (ps : List (Packet γ)) : Nat := (ps.map fun p => p.entry.replies.toNat).sum

theorem answered_cons (p : Packet γ) (ps : List (Packet γ)) :
    answered (p :: ps) = p.entry.replies.toNat + answered ps := by
  rw [answered, List.map_cons, List.sum_cons]
  rfl

theorem answered_append (ps qs : List (Packet γ)) :
    answered (ps ++ qs) = answered ps + answered qs := by
  rw [answered, List.map_append, List.sum_append]
  rfl

theorem replies_append {version : UInt32} {H : Host γ σ} {s : σ} {count : Nat} (ps : List (Packet γ))
    (xs : List (Executed γ)) : replies version count ((H.serve s ps).1 ++ xs) =
      replies version count (H.serve s ps).1 ++ replies version (count + answered ps) xs := by
  induction ps generalizing s count with
  | nil => rfl
  | cons p ps ih =>
    rw [Host.serve, List.cons_append, replies, replies, ih, List.append_assoc, answered_cons,
      ← Nat.add_assoc]
    rfl

namespace RenderThread

variable {version : UInt32} {read write : Nat} {t u v : RenderThread γ σ} {ps qs : List (Packet γ)}

/-- Packets have been served, in their order and each once. -/
structure Served (H : Host γ σ) (version : UInt32) (read write : Nat) (ps : List (Packet γ))
    (t u : RenderThread γ σ) : Prop where
  host : u.host = (H.serve t.host ps).2
  calls : u.calls = t.calls ++ (H.serve t.host ps).1
  sent : u.sent = t.sent ++ replies version write (H.serve t.host ps).1
  idle : ChecksumCalculator.Idle version (read + ps.length) (write + answered ps) u.protocol

variable {H : Host γ σ}

theorem served_none (h : ChecksumCalculator.Idle version read write t.protocol) :
    Served H version read write [] t t :=
  ⟨rfl, (List.append_nil _).symm, (List.append_nil _).symm, h⟩

theorem Served.trans (h : Served H version read write ps t u)
    (k : Served H version (read + ps.length) (write + answered ps) qs u v) :
    Served H version read write (ps ++ qs) t v := by
  have later := H.serve_append t.host ps qs
  refine ⟨?_, ?_, ?_, ?_⟩
  · rw [later, k.host, h.host]
  · rw [later, k.calls, h.calls, h.host, List.append_assoc]
  · rw [later, replies_append, k.sent, h.sent, h.host, List.append_assoc]
  · rw [answered_append, List.length_append, ← Nat.add_assoc, ← Nat.add_assoc]
    exact k.idle

theorem served_one (known : version = 0 ∨ version = 1)
    (h : ChecksumCalculator.Idle version read write t.protocol) {p : Packet γ}
    (wf : p.WellFormed version) (tail : List UInt8) :
    ∃ u, t.handle H p.entry p.opcode (p.bytes version read ++ tail) = .ok u ∧
      Served H version read write [p] t u := by
  obtain ⟨u, handled, host, calls, sent, idle⟩ := handle_packet H known h wf tail
  exact ⟨u, handled, host, calls, sent.trans (by rw [Host.serve, Host.serve, replies, replies, List.append_nil]), idle⟩

/-- A buffer that ends inside of a packet is left alone. -/
theorem decode_short {a : Api γ} {rounds : Nat} {b c : List UInt8} {p : Packet γ}
    (wf : p.WellFormed version) (tail : List UInt8)
    (same : b ++ c = p.bytes version read ++ tail) (short : b.length < (p.bytes version read).length) :
    t.decode H a (rounds + 1) b = .ok (0, t) := by
  rw [decode]
  refine if_pos ?_
  by_contra long
  obtain ⟨header, long⟩ := not_or.mp long
  have first := (wf.header read tail).2.1
  have front : ((b ++ c).drop 4).take 4 = (b.drop 4).take 4 := by
    rw [List.drop_append_of_le_length (by omega), List.take_append_of_le_length]
    rw [List.length_drop]
    omega
  rw [← same, front] at first
  exact long (first ▸ short)

/-- Why nothing was served: no packet is left, or the first one is not there as a whole, or it is not
for these decoders. -/
def Stops (version : UInt32) (read : Nat) (apis : List (Api γ)) (b : List UInt8)
    (ps : List (Packet γ)) : Prop :=
  ∀ p ∈ ps.head?, b.length < (p.bytes version read).length ∨ ∀ a ∈ apis, a.find p.opcode = none

/-- A decoder serves whole packets from the front of its buffer, and stops behind one of them. -/
theorem decode_stream (known : version = 0 ∨ version = 1) {a : Api γ} {rounds : Nat}
    {b c : List UInt8} (wf : ∀ p ∈ ps, p.WellFormed version)
    (entries : ∀ p ∈ ps, ∀ e, a.find p.opcode = some e → e = p.entry)
    (idle : ChecksumCalculator.Idle version read write t.protocol)
    (same : b ++ c = Packet.stream version read ps) (enough : b.length < rounds) :
    ∃ done todo rest u, ps = done ++ todo ∧ b = Packet.stream version read done ++ rest ∧
      t.decode H a rounds b = .ok ((Packet.stream version read done).length, u) ∧
      Served H version read write done t u ∧
      (done = [] → Stops version read [a] b ps) := by
  induction rounds generalizing ps t read write b with
  | zero => cases enough
  | succ rounds ih =>
    cases ps with
    | nil =>
      obtain ⟨rfl, -⟩ := List.append_eq_nil_iff.mp same
      exact ⟨[], [], [], t, rfl, rfl, rfl, served_none idle, fun _ => nofun⟩
    | cons p ps =>
      obtain ⟨first, later⟩ := List.forall_mem_cons.mp wf
      by_cases short : b.length < (p.bytes version read).length
      · refine ⟨[], p :: ps, b, t, rfl, rfl, decode_short first _ same short, served_none idle, ?_⟩
        intro _ p' hp
        obtain rfl := Option.some.inj hp
        exact Or.inl short
      · -- the packet is there as a whole
        obtain ⟨rest, rfl⟩ : ∃ rest, b = p.bytes version read ++ rest := by
          refine ⟨b.drop (p.bytes version read).length, ?_⟩
          have front := congrArg (List.take (p.bytes version read).length) same
          rw [Packet.stream, List.take_left, List.take_append_of_le_length (by omega)] at front
          rw [← front, List.length_take_of_le (by omega), List.take_append_drop]
        rw [Packet.stream, List.append_assoc] at same
        obtain ⟨opcode, packetLen, size⟩ := first.header read rest
        rw [List.length_append] at enough short
        rw [decode, opcode, packetLen, if_neg (by rw [List.length_append]; omega)]
        cases find : a.find p.opcode with
        | none =>
          refine ⟨[], p :: ps, _, t, rfl, rfl, rfl, served_none idle, ?_⟩
          intro _ p' hp
          obtain rfl := Option.some.inj hp
          exact Or.inr fun a' ha => List.mem_singleton.mp ha ▸ find
        | some e =>
          obtain rfl := entries p List.mem_cons_self e find
          obtain ⟨u, handled, served⟩ := served_one (H := H) known idle first rest
          obtain ⟨done, todo, left, v, rfl, split, decoded, more, -⟩ :=
            ih later (fun q hq => entries q (List.mem_cons_of_mem p hq)) served.idle
              (List.append_cancel_left same) (by omega)
          refine ⟨p :: done, todo, left, v, rfl, ?_, ?_, served.trans more, nofun⟩
          · rw [Packet.stream, List.append_assoc]
            exact congrArg _ split
          · dsimp only
            rw [handled]
            dsimp only
            rw [List.drop_left, decoded, Packet.stream, List.length_append]
            rfl

theorem stream_pos {read : Nat} (wf : ∀ p ∈ ps, p.WellFormed version) :
    decide ((Packet.stream version read ps).length > 0) = !ps.isEmpty := by
  cases ps with
  | nil => rfl
  | cons p ps =>
    have size := ((wf p List.mem_cons_self).header read []).2.2
    rw [Packet.stream, List.length_append]
    exact decide_eq_true (by omega)

/-- A round serves packets from the front of the buffer. Where it makes no progress, no decoder can
go on. -/
theorem pass_stream (known : version = 0 ∨ version = 1) {apis : List (Api γ)} {b c : List UInt8}
    (wf : ∀ p ∈ ps, p.WellFormed version)
    (entries : ∀ p ∈ ps, ∀ a ∈ apis, ∀ e, a.find p.opcode = some e → e = p.entry)
    (idle : ChecksumCalculator.Idle version read write t.protocol)
    (same : b ++ c = Packet.stream version read ps) :
    ∃ done todo rest u, ps = done ++ todo ∧ b = Packet.stream version read done ++ rest ∧
      t.pass H apis b = .ok (!done.isEmpty, u, rest) ∧ Served H version read write done t u ∧
      (done = [] → Stops version read apis b ps) := by
  induction apis generalizing ps t read write b with
  | nil =>
    refine ⟨[], ps, b, t, rfl, rfl, rfl, served_none idle, fun _ p _ => Or.inr nofun⟩
  | cons a apis ih =>
    obtain ⟨done, todo, rest, u, rfl, rfl, decoded, served, stops⟩ :=
      decode_stream (H := H) known wf (fun p hp => entries p hp a List.mem_cons_self) idle same
        (Nat.lt_succ_self b.length)
    rw [Packet.stream_append, List.append_assoc] at same
    obtain ⟨more, left, last, v, rfl, rfl, passed, further, ends⟩ :=
      ih (fun p hp => wf p (List.mem_append_right done hp))
        (fun p hp a' ha => entries p (List.mem_append_right done hp) a' (List.mem_cons_of_mem a ha))
        served.idle (List.append_cancel_left same)
    refine ⟨done ++ more, left, last, v, (List.append_assoc _ _ _).symm, ?_, ?_,
      served.trans further, ?_⟩
    · rw [Packet.stream_append, List.append_assoc]
    · rw [pass, decoded]
      dsimp only
      rw [List.drop_left, passed]
      rw [Except.map, stream_pos fun p hp => wf p (List.mem_append_left _ hp)]
      cases done with
      | nil => rfl
      | cons p done => rfl
    · intro none
      obtain ⟨rfl, rfl⟩ := List.append_eq_nil_iff.mp none
      intro p hp
      cases stops rfl p hp with
      | inl short => exact Or.inl short
      | inr skipped =>
        cases ends rfl p hp with
        | inl short => exact Or.inl short
        | inr others =>
          exact Or.inr (List.forall_mem_cons.mpr ⟨skipped a (List.mem_singleton_self a), others⟩)

end RenderThread

end Anbox.Emugen
