import Anbox.Emugen.Decoder
import Anbox.Framework.Run

namespace Anbox.Emugen

open Anbox.Framework

variable {γ σ ι : Type*}

/-- The encoder reads `__size_` bytes back for each pointer that is written to, and none for NULL. -/
def Field.readback : Field → Option Nat
  | .value _ => none
  | .pointer p =>
    if p.pointerDir = .POINTER_IN then none
    else some (if p.nullAllowed ∧ p.memory = none then 0 else p.size)

def EntryPoint.readbacks (e : EntryPoint γ) (fs : List Field) : List Nat :=
  fs.filterMap Field.readback ++ e.retval.sizes

def Field.isNull : Field → Bool
  | .value _ => false
  | .pointer p => p.nullAllowed && p.memory = none

/-- `hasReadbackChecksum` -/
def EntryPoint.hasReadbackChecksum (fs : List Field) : Bool := fs.any fun f => f.readback.isSome

/-- Something is read back, if only a checksum; the stream is flushed then. -/
def EntryPoint.readsBack (e : EntryPoint γ) (fs : List Field) (useChecksum : Bool) : Bool :=
  (fs.any fun f => f.readback.isSome && !f.isNull) || e.retval.isValue ||
    useChecksum && hasReadbackChecksum fs

/-- Reading back waits until all bytes are there, `none`. A checksum that is not right aborts. -/
def Client.readback (x : Client) (sizes : List Nat) (replies : List UInt8) :
    Option (Except Fault (List (List UInt8) × List UInt8 × Client)) :=
  (splitFronts sizes replies).bind fun q =>
    if x.useChecksum then
      let y := q.1.foldl (fun y piece => y.addBuffer piece.length) x
      (splitFront y.mChecksumCalculator.checksumByteSize q.2).map fun r =>
        let v := y.mChecksumCalculator.validate r.1
        if v.1 then .ok (q.1, r.2, { y with mChecksumCalculator := v.2 }) else .error .invalid
    else some (.ok (q.1, q.2, x))

/-- What the generated code on both sides relies on. The specification keeps to it: no parameter is
both read and written, and a call that sends data past the stream's buffer or that returns a pointer
writes to none. -/
structure EntryPoint.Sound (e : EntryPoint γ) : Prop where
  inout : ∀ p, Var.pointer p ∈ e.vars → p.pointerDir ≠ .POINTER_INOUT
  large : e.vars.any Var.isLarge = true → e.vars.any Var.isOut = false
  pointer : e.retval = .pointer → e.vars.any Var.isOut = false

/-- A specification for both sides. -/
structure Protocol (γ : Type*) where
  version : UInt32
  known : version = 0 ∨ version = 1
  apis : List (Api γ)
  sound : ∀ a ∈ apis, ∀ e ∈ a.entries, e.Sound
  small : ∀ a ∈ apis, a.baseOpcode + a.entries.length ≤ 2^32
  distinct : apis.Pairwise fun a b => ∀ opcode, a.find opcode = none ∨ b.find opcode = none

/-- A call that a client makes through an encoder, with arguments as they have to be. None selects
another checksum: `setChecksumHelper` is not used. -/
structure Call (P : Protocol γ) where
  api : Api γ
  mem : api ∈ P.apis
  opcode : Nat
  entry : EntryPoint γ
  find : api.find opcode = some entry
  version : entry.name ≠ "rcSelectChecksumCalculator"
  self : γ
  args : List Arg
  fields : List.Forall₂ Field.Of entry.vars (entry.fields self args)
  small : 8 + ((entry.fields self args).map Field.encodingSize).sum < 2^31

def Call.request {P : Protocol γ} (k : Call P) : Request γ :=
  ⟨k.entry, k.opcode, (k.entry.fields k.self k.args).map Field.received⟩

/-- A guest thread's connection, and the thread that serves it: `buffer` are the bytes that thread has
read and not decoded yet, and `decoding` tells whether it is in its loop or waits for more. `issued`
and `returned` tell what was called, and what the calls returned that had bytes to wait for. -/
structure Connection (γ : Type*) where
  client : Client
  waiting : Option (EntryPoint γ × List Field)
  issued : List (Request γ)
  returned : List (List (List UInt8))
  buffer : List UInt8
  decoding : Bool
  protocol : ChecksumCalculator
  replies : List UInt8

structure Remote (γ σ ι : Type*) where
  host : σ
  log : List (ι × Executed γ)
  conn : ι → Connection γ
  fault : Option Fault

def Connection.init (version : UInt32) (bufSize : Nat) : Connection γ where
  client := ⟨QemuPipeStream.init bufSize, (ChecksumCalculator.init.setVersion version).2⟩
  waiting := none
  issued := []
  returned := []
  buffer := []
  decoding := false
  protocol := (ChecksumCalculator.init.setVersion version).2
  replies := []

def Remote.init (version : UInt32) (bufSize : Nat) (host : σ) : Remote γ σ ι :=
  ⟨host, [], fun _ => Connection.init version bufSize, none⟩

/-- What the host's functions leave for a call is sent back in so many bytes. -/
def EntryPoint.replySize (e : EntryPoint γ) (fs : List Field) (checksumSize : Nat) : Nat :=
  (e.readbacks fs).sum + checksumSize

/-- The encoder's function is called: its packet is written, and the stream flushed if there is
something to read back. Reading nothing does not wait. -/
def Connection.call {P : Protocol γ} (c : Connection γ) (k : Call P) (fresh : Nat → UInt8) :
    Connection γ :=
  let fs := k.entry.fields k.self k.args
  let x := c.client.encode k.opcode fs fresh
  let reads := k.entry.readsBack fs c.client.useChecksum
  let size := k.entry.replySize fs x.mChecksumCalculator.checksumByteSize
  { c with
    client := if k.entry.flushOnEncode ∨ reads then x.flush else x
    waiting := if reads ∧ size > 0 then some (k.entry, fs) else none
    issued := c.issued ++ [k.request] }

/-- The thread reads bytes from the pipe. -/
def Connection.deliver (c : Connection γ) (n : Nat) : Connection γ :=
  { c with
    client.mStream.sent := c.client.mStream.sent.drop n
    buffer := c.buffer ++ c.client.mStream.sent.take n
    decoding := true }

/-- What a round leaves of a connection. -/
def Connection.served (c : Connection γ) (progress : Bool) (t : RenderThread γ σ) (rest : List UInt8) :
    Connection γ :=
  { c with
    buffer := rest
    decoding := progress
    protocol := t.protocol
    replies := c.replies ++ t.sent }

/-- What reading an answer leaves of a connection. -/
def Connection.answered (c : Connection γ) (pieces : List (List UInt8)) (rest : List UInt8) (x : Client) :
    Connection γ :=
  { c with
    client := x
    waiting := none
    returned := c.returned ++ [pieces]
    replies := rest }

inductive Action {γ : Type*} (P : Protocol γ) (ι : Type*) where
  | call (c : ι) (k : Call P) (fresh : Nat → UInt8)
  | deliver (c : ι) (n : Nat)
  | pass (c : ι)
  | readback (c : ι)

variable [DecidableEq ι]

def Remote.set (s : Remote γ σ ι) (c : ι) (conn : Connection γ) : Remote γ σ ι :=
  { s with conn := Function.update s.conn c conn }

/-- One round of a thread's loop, under the lock that all threads share. -/
def Remote.pass (H : ι → Host γ σ) (P : Protocol γ) (s : Remote γ σ ι) (c : ι) : Remote γ σ ι :=
  match RenderThread.pass (H c) P.apis ⟨s.host, [], (s.conn c).protocol, []⟩ (s.conn c).buffer with
  | .error fault => { s with fault := some fault }
  | .ok (progress, t, rest) =>
    { s with host := t.host, log := s.log ++ t.calls.map fun x => (c, x) }.set c
      ((s.conn c).served progress t rest)

def Remote.readback (s : Remote γ σ ι) (c : ι) :
    Except Fault (List (List UInt8) × List UInt8 × Client) → Remote γ σ ι
  | .error fault => { s with fault := some fault }
  | .ok (pieces, rest, x) => s.set c ((s.conn c).answered pieces rest x)

/-- `H c` are the host's functions as the thread of the connection `c` calls them: they work on that
thread's information and on the context that is current in it. -/
def step (H : ι → Host γ σ) (P : Protocol γ) (s : Remote γ σ ι) (a : Action P ι) :
    Option (Remote γ σ ι) :=
  if s.fault.isSome then none else
  match a with
  | .call c k fresh =>
    if (s.conn c).waiting.isSome ∨ k.entry.unsupported then none
    else some (s.set c ((s.conn c).call k fresh))
  | .deliver c n =>
    if (s.conn c).decoding ∨ n = 0 ∨ n > (s.conn c).client.mStream.sent.length then none
    else some (s.set c ((s.conn c).deliver n))
  | .pass c => if (s.conn c).decoding then some (s.pass H P c) else none
  | .readback c => (s.conn c).waiting.bind fun w =>
    ((s.conn c).client.readback (w.1.readbacks w.2) (s.conn c).replies).map (s.readback c)

section

variable {e : EntryPoint γ} {v : Var γ} {f : Field} {fs : List Field}

theorem Field.Of.readback_eq (h : Field.Of v f)
    (inout : ∀ p, v = .pointer p → p.pointerDir ≠ .POINTER_INOUT) :
    f.readback = f.received.outputSize := by
  cases h with
  | value bytes => rfl
  | @pointer p f dir null large size memory written =>
    rw [Field.readback, Field.received]
    cases hd : f.pointerDir with
    | POINTER_IN => rfl
    | POINTER_INOUT => exact absurd (dir.symm.trans hd) (inout p rfl)
    | POINTER_OUT =>
      rw [if_neg (by decide), if_pos rfl, Field.Received.outputSize, Field.nullIf]
      congr 1
      split_ifs with none empty nothing
      · rfl
      · exact (written none.2).symm
      · exact nothing.2
      · rfl

theorem Field.Of.readback_isSome (h : Field.Of v f)
    (inout : ∀ p, v = .pointer p → p.pointerDir ≠ .POINTER_INOUT) : f.readback.isSome = v.isOut := by
  cases h with
  | value bytes => rfl
  | @pointer p f dir null large size memory written =>
    rw [Field.readback, Var.isOut, ← dir]
    cases hd : f.pointerDir with
    | POINTER_IN => rfl
    | POINTER_INOUT => exact absurd (dir.symm.trans hd) (inout p rfl)
    | POINTER_OUT => rfl

/-- The guest waits for as much as the host sends. -/
theorem EntryPoint.Sound.readbacks_eq (sound : e.Sound) (h : List.Forall₂ Field.Of e.vars fs) :
    e.readbacks fs = e.tmpSizes (fs.map Field.received) := by
  rw [readbacks, tmpSizes, List.filterMap_map]
  congr 1
  have inout := sound.inout
  generalize e.vars = vs at h inout
  induction h with
  | nil => rfl
  | cons first rest ih =>
    have here := first.readback_eq fun p hp => inout p (hp ▸ List.mem_cons_self)
    rw [List.filterMap_cons, List.filterMap_cons, ih fun p hp => inout p (List.mem_cons_of_mem _ hp),
      here]
    rfl

theorem EntryPoint.Sound.hasReadbackChecksum_eq (sound : e.Sound)
    (h : List.Forall₂ Field.Of e.vars fs) : hasReadbackChecksum fs = e.vars.any Var.isOut := by
  have inout := sound.inout
  rw [hasReadbackChecksum]
  generalize e.vars = vs at h inout
  induction h with
  | nil => rfl
  | cons first rest ih =>
    rw [List.any_cons, List.any_cons, ih fun p hp => inout p (List.mem_cons_of_mem _ hp),
      first.readback_isSome fun p hp => inout p (hp ▸ List.mem_cons_self)]

theorem EntryPoint.Sound.replies_of_readsBack (sound : e.Sound) (h : List.Forall₂ Field.Of e.vars fs)
    {useChecksum : Bool} (reads : e.readsBack fs useChecksum = true) : e.replies = true := by
  rw [EntryPoint.replies, ← sound.hasReadbackChecksum_eq h, hasReadbackChecksum]
  rw [readsBack, Bool.or_eq_true, Bool.or_eq_true, Bool.and_eq_true] at reads
  rw [Bool.or_eq_true]
  cases reads with
  | inl here =>
    refine here.imp_left fun some => ?_
    obtain ⟨f, hf, read⟩ := List.any_eq_true.mp some
    exact List.any_eq_true.mpr ⟨f, hf, (Bool.and_eq_true_iff.mp read).1⟩
  | inr checksum => exact Or.inl checksum.2

/-- Where bytes come back something is read back, though all its pointers may be NULL. -/
theorem EntryPoint.Sound.readsBack_of_replies (sound : e.Sound) (h : List.Forall₂ Field.Of e.vars fs)
    (replies : e.replies = true) {useChecksum : Bool} {checksumSize : Nat}
    (used : 0 < checksumSize → useChecksum = true) (some : 0 < e.replySize fs checksumSize) :
    e.readsBack fs useChecksum = true := by
  rw [EntryPoint.replies, ← sound.hasReadbackChecksum_eq h, Bool.or_eq_true] at replies
  rw [readsBack, Bool.or_eq_true, Bool.or_eq_true, Bool.and_eq_true]
  cases value : e.retval.isValue with
  | true => exact Or.inl (Or.inr rfl)
  | false =>
    rw [value] at replies
    have reads := replies.resolve_right Bool.false_ne_true
    by_cases checksum : 0 < checksumSize
    · exact Or.inr ⟨used checksum, reads⟩
    · -- a pointer of which bytes come back is not NULL
      have none : e.retval.sizes = [] := by
        cases hr : e.retval with
        | value bytes => rw [hr] at value; cases value
        | void => rfl
        | pointer => rfl
      rw [replySize, readbacks, none, List.append_nil] at some
      have sum : (fs.filterMap Field.readback).sum ≠ 0 := by omega
      rw [Ne, List.sum_eq_zero_iff_forall_eq_nat, not_forall] at sum
      obtain ⟨n, hn⟩ := sum
      obtain ⟨mem, pos⟩ := Classical.not_imp.mp hn
      obtain ⟨f, hf, read⟩ := List.mem_filterMap.mp mem
      refine Or.inl (Or.inl (List.any_eq_true.mpr ⟨f, hf, ?_⟩))
      cases f with
      | value bytes => cases read
      | pointer p =>
        have sent : (Field.pointer p).isNull = false := by
          rw [Field.readback] at read
          obtain ⟨-, size⟩ := Option.ite_none_left_eq_some.mp read
          rw [Field.isNull]
          by_contra null
          rw [Bool.not_eq_false, Bool.and_eq_true, decide_eq_true_iff] at null
          rw [if_pos null] at size
          exact pos (Option.some.inj size).symm
        rw [read, sent]
        rfl

end

end Anbox.Emugen
