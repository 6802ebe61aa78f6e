import Anbox.Emugen.Remoting

namespace Anbox.Emugen

open Anbox.Framework

variable {γ σ ι : Type*}

/-! Calls of which bytes come back. -/

def Executed.awaited (version : UInt32) (x : Executed γ) : Bool :=
  x.entry.replies && decide (0 < x.answers.flatten.length + ChecksumCalculator.byteSize version)

def Request.awaited (version : UInt32) (r : Request γ) : Bool :=
  r.entry.replies && decide (0 < (r.entry.tmpSizes r.received).sum +
    ChecksumCalculator.byteSize version)

def Packet.awaited (version : UInt32) (p : Packet γ) : Bool := p.request.awaited version

def answersOf (version : UInt32) (xs : List (Executed γ)) : List (List (List UInt8)) :=
  (xs.filter (Executed.awaited version)).map Executed.answers

variable {H : Host γ σ} {version : UInt32} {s : σ} {p : Packet γ} {ps qs : List (Packet γ)}
  {count : Nat}

theorem answersOf_append (xs ys : List (Executed γ)) :
    answersOf version (xs ++ ys) = answersOf version xs ++ answersOf version ys := by
  rw [answersOf, List.filter_append, List.map_append]
  rfl

theorem awaited_executed (H : Host γ σ) (s : σ) (p : Packet γ) :
    (H.executed s p).awaited version = p.awaited version := by
  have sizes := H.tmpSizes s p.entry (p.fields.map Field.received)
  rw [Executed.awaited, Packet.awaited, Request.awaited, List.length_flatten, Packet.request, ← sizes]
  rfl

theorem reply_of_quiet {x : Executed γ} (quiet : x.awaited version = false) :
    x.reply version count = [] := by
  rw [Executed.reply]
  split_ifs with replies
  · rw [Executed.awaited, replies, Bool.true_and, decide_eq_false_iff_not] at quiet
    apply List.eq_nil_of_length_eq_zero
    rw [List.length_append, ChecksumCalculator.length_packetChecksum]
    omega
  · rfl

theorem replies_of_quiet (H : Host γ σ) (s : σ) (quiet : ∀ p ∈ ps, p.awaited version = false) :
    replies version count (H.serve s ps).1 = [] := by
  induction ps generalizing s count with
  | nil => rfl
  | cons p ps ih =>
    obtain ⟨first, later⟩ := List.forall_mem_cons.mp quiet
    rw [Host.serve, replies, ih _ later, List.append_nil]
    exact reply_of_quiet ((awaited_executed H s p).trans first)

theorem serve_requests (H : Host γ σ) (s : σ) (ps : List (Packet γ)) :
    (H.serve s ps).1.map Executed.toRequest = ps.map Packet.request := by
  induction ps generalizing s with
  | nil => rfl
  | cons p ps ih =>
    rw [Host.serve, List.map_cons, List.map_cons, ih]
    rfl

theorem length_serve (H : Host γ σ) (s : σ) (ps : List (Packet γ)) :
    (H.serve s ps).1.length = ps.length := by
  rw [← List.length_map Executed.toRequest, serve_requests, List.length_map]

theorem length_answersOf_serve (H : Host γ σ) (s : σ) (ps : List (Packet γ)) :
    (answersOf version (H.serve s ps).1).length = ps.countP (Packet.awaited version) := by
  rw [answersOf, List.length_map, ← List.countP_eq_length_filter]
  induction ps generalizing s with
  | nil => rfl
  | cons p ps ih =>
    rw [Host.serve, List.countP_cons, List.countP_cons, ih, awaited_executed]

theorem answersOf_of_quiet (H : Host γ σ) (s : σ) (quiet : ∀ p ∈ ps, p.awaited version = false) :
    answersOf version (H.serve s ps).1 = [] := by
  apply List.eq_nil_of_length_eq_zero
  rw [length_answersOf_serve, List.countP_eq_zero]
  intro p hp
  rw [quiet p hp]
  exact Bool.false_ne_true

/-- With checksums, bytes come back of every call that answers. -/
theorem answered_eq (ps : List (Packet γ)) : answered ps = ps.countP (Packet.awaited 1) := by
  induction ps with
  | nil => rfl
  | cons p ps ih =>
    have awaited : p.awaited 1 = p.entry.replies := by
      rw [Packet.awaited, Request.awaited, decide_eq_true, Bool.and_true]
      · rfl
      exact Nat.lt_of_lt_of_le (by decide) (Nat.le_add_left _ _)
    rw [answered_cons, List.countP_cons, ih, awaited, Nat.add_comm]
    cases p.entry.replies with
    | false => rfl
    | true => rfl

/-- Without checksums nothing is counted. -/
theorem idle_count (known : version = 0 ∨ version = 1) {read write : Nat} {c : ChecksumCalculator}
    (h : ChecksumCalculator.Idle version read (write + answered ps) c) :
    ChecksumCalculator.Idle version read (write + ps.countP (Packet.awaited version)) c := by
  cases known with
  | inl zero =>
    subst zero
    exact ⟨h.kind, nofun, nofun, nofun⟩
  | inr one =>
    subst one
    rwa [← answered_eq]

/-- The last of several calls is the only one of which bytes come back. -/
theorem replies_last (known : version = 0 ∨ version = 1) (H : Host γ σ) (s : σ)
    (quiet : ∀ p ∈ ps, p.awaited version = false) (last : p.awaited version = true) (count : Nat) :
    ∃ answers, answersOf version (H.serve s (ps ++ [p])).1 = [answers] ∧
      answers.map List.length = p.entry.tmpSizes (p.fields.map Field.received) ∧
      replies version count (H.serve s (ps ++ [p])).1 = answers.flatten ++
        ChecksumCalculator.packetChecksum version answers.flatten.length count := by
  refine ⟨(H.executed (H.serve s ps).2 p).answers, ?_, H.tmpSizes _ _ _, ?_⟩
  · rw [Host.serve_append, answersOf_append, answersOf_of_quiet H s quiet, List.nil_append, answersOf,
      Host.serve, Host.serve, List.filter_cons_of_pos ((awaited_executed H _ p).trans last)]
    rfl
  · have answers : p.entry.replies = true := (Bool.and_eq_true_iff.mp last).1
    have entry : (H.executed (H.serve s ps).2 p).entry = p.entry := rfl
    rw [Host.serve_append, replies_append, replies_of_quiet H s quiet, List.nil_append, Host.serve,
      Host.serve, replies, replies, List.append_nil, Executed.reply, entry, if_pos answers]
    cases known with
    | inl zero => rw [zero]; rfl
    | inr one =>
      subst one
      have none : answered ps = 0 := by
        rw [answered_eq, List.countP_eq_zero]
        intro q hq
        rw [quiet q hq]
        exact Bool.false_ne_true
      rw [none, Nat.add_zero]

/-! What the specification gives. -/

variable {P : Protocol γ}

theorem Api.find_eq {a : Api γ} {opcode : Nat} {e : EntryPoint γ} (h : a.find opcode = some e) :
    e ∈ a.entries ∧ opcode < a.baseOpcode + a.entries.length := by
  rw [Api.find] at h
  obtain ⟨base, entry⟩ := Option.ite_none_right_eq_some.mp h
  obtain ⟨inside, -⟩ := List.getElem?_eq_some_iff.mp entry
  exact ⟨List.mem_of_getElem? entry, by omega⟩

/-- No opcode is of two entry points. -/
theorem Protocol.entry_unique (P : Protocol γ) {a b : Api γ} {opcode : Nat} {d e : EntryPoint γ}
    (ha : a ∈ P.apis) (hb : b ∈ P.apis) (hd : a.find opcode = some d) (he : b.find opcode = some e) :
    d = e := by
  by_cases same : a = b
  · subst same
    exact Option.some.inj (hd.symm.trans he)
  · have symmetric : Std.Symm fun a b : Api γ => ∀ opcode, a.find opcode = none ∨ b.find opcode = none :=
      ⟨fun a b h opcode => (h opcode).symm⟩
    have apart := P.distinct.forall ha hb same
    cases apart opcode with
    | inl none => rw [none] at hd; cases hd
    | inr none => rw [none] at he; cases he

theorem Call.sound (k : Call P) : k.entry.Sound :=
  P.sound k.api k.mem k.entry (Api.find_eq k.find).1

/-- Where the answer is that a connection waits for: its call was not made yet, or it is there. -/
inductive Waits (P : Protocol γ) (c : Connection γ) (xs : List (Executed γ)) :
    List (Packet γ) → Prop where
  | free {todo : List (Packet γ)} (waiting : c.waiting = none)
      (quiet : ∀ p ∈ todo, p.awaited P.version = false) (returned : c.returned = answersOf P.version xs)
      (replies : c.replies = []) : Waits P c xs todo
  | called {before : List (Packet γ)} {p : Packet γ} (waiting : c.waiting = some (p.entry, p.fields))
      (flushed : c.client.mStream.held = []) (quiet : ∀ q ∈ before, q.awaited P.version = false)
      (awaited : p.awaited P.version = true) (returned : c.returned = answersOf P.version xs)
      (replies : c.replies = []) : Waits P c xs (before ++ [p])
  | answered {e : EntryPoint γ} {fs : List Field} {answers : List (List UInt8)}
      (waiting : c.waiting = some (e, fs)) (flushed : c.client.mStream.held = [])
      (returned : answersOf P.version xs = c.returned ++ [answers])
      (sizes : answers.map List.length = e.readbacks fs)
      (replies : c.replies = answers.flatten ++
        ChecksumCalculator.packetChecksum P.version answers.flatten.length c.returned.length) :
      Waits P c xs []

/-- What holds between the two sides of a connection of which `xs` were executed: packets of the
calls that are left make up the bytes that are on their way. -/
structure Connected (P : Protocol γ) (c : Connection γ) (xs : List (Executed γ))
    (todo : List (Packet γ)) : Prop where
  inside : c.client.mStream.Inside
  wellFormed : ∀ p ∈ todo, p.WellFormed P.version
  entries : ∀ p ∈ todo, p.entry.Sound ∧ ∃ a ∈ P.apis, a.find p.opcode = some p.entry
  issued : c.issued = xs.map Executed.toRequest ++ todo.map Packet.request
  bytes : c.buffer ++ c.client.mStream.pending = Packet.stream P.version xs.length todo
  guest : ChecksumCalculator.Idle P.version c.returned.length c.issued.length
    c.client.mChecksumCalculator
  host : ChecksumCalculator.Idle P.version xs.length (answersOf P.version xs).length c.protocol
  stalled : c.decoding = false → ∀ p ∈ todo.head?,
    c.buffer.length < (p.bytes P.version xs.length).length
  waits : Waits P c xs todo

variable {c : Connection γ} {xs : List (Executed γ)} {todo : List (Packet γ)}

theorem connected_init (P : Protocol γ) (bufSize : Nat) :
    Connected P (Connection.init P.version bufSize) [] [] := by
  have kind : (ChecksumCalculator.init.setVersion P.version).2.mVersion = P.version := by
    cases P.known with
    | inl zero => rw [zero]; rfl
    | inr one => rw [one]; rfl
  have idle : ChecksumCalculator.Idle P.version 0 0 (ChecksumCalculator.init.setVersion P.version).2 := by
    refine ⟨kind, ?_, ?_, ?_⟩
    all_goals
      intro one
      rw [one]
      rfl
  exact {
    inside := QemuPipeStream.init_inside bufSize
    wellFormed := nofun
    entries := nofun
    issued := rfl
    bytes := rfl
    guest := idle
    host := idle
    stalled := fun _ => nofun
    waits := .free rfl nofun rfl rfl }

/-- The thread reads from the pipe. -/
theorem Connected.deliver (h : Connected P c xs todo) (n : Nat) :
    Connected P (c.deliver n) xs todo := by
  refine ⟨⟨h.inside.known, h.inside.free, h.inside.size⟩, h.wellFormed, h.entries, h.issued, ?_,
    h.guest, h.host, nofun, ?_⟩
  · rw [← h.bytes, QemuPipeStream.pending, Connection.deliver, QemuPipeStream.pending]
    change _ ++ (_ ++ c.client.mStream.held) = _
    simp only [← List.append_assoc]
    rw [List.append_assoc c.buffer, List.take_append_drop]
  · cases h.waits with
    | free waiting quiet returned replies => exact .free waiting quiet returned replies
    | called waiting flushed quiet awaited returned replies =>
      exact .called waiting flushed quiet awaited returned replies
    | answered waiting flushed returned sizes replies =>
      exact .answered waiting flushed returned sizes replies

theorem any_isLarge {e : EntryPoint γ} {fs : List Field} (h : List.Forall₂ Field.Of e.vars fs) :
    fs.any Field.isLarge = e.vars.any Var.isLarge := by
  generalize e.vars = vs at h
  induction h with
  | nil => rfl
  | cons first rest ih => rw [List.any_cons, List.any_cons, ih, first.isLarge]

theorem any_isOut {e : EntryPoint γ} {fs : List Field} (h : List.Forall₂ Field.Of e.vars fs) :
    fs.any Field.isOut = e.vars.any Var.isOut := by
  generalize e.vars = vs at h
  induction h with
  | nil => rfl
  | cons first rest ih => rw [List.any_cons, List.any_cons, ih, first.isOut]

/-- A call's packet joins those that are on their way, and its answer is waited for. -/
theorem Connected.call (h : Connected P c xs todo) (idle : c.waiting = none) (k : Call P)
    (fresh : Nat → UInt8) : ∃ p, p.request = k.request ∧
    Connected P (c.call k fresh) xs (todo ++ [p]) := by
  have sound := k.sound
  have fields := k.fields
  have small := k.small
  generalize hfs : k.entry.fields k.self k.args = fs at fields small
  have sent : fs.any Field.isLarge = true → ∀ f ∈ fs, f.isOut = false := by
    rw [any_isLarge fields]
    intro large f hf
    have none := sound.large large
    rw [← any_isOut fields] at none
    simpa using List.any_eq_false.mp none f hf
  obtain ⟨inside, next, stale, length, pending⟩ :=
    Client.encode_sends P.known h.inside h.guest fields sent (by omega) k.opcode fresh
  have size : Client.totalSize fs (ChecksumCalculator.byteSize P.version) < 2^32 := by
    have checksum : ChecksumCalculator.byteSize P.version ≤ 8 := by
      unfold ChecksumCalculator.byteSize
      split_ifs
      · exact Nat.le_refl 8
      · exact Nat.zero_le 8
    rw [Client.totalSize, Nat.mod_eq_of_lt (by omega)]
    omega
  have opcode : k.opcode < 2^32 :=
    Nat.lt_of_lt_of_le (Api.find_eq k.find).2 (P.small k.api k.mem)
  have total : k.entry.replySize fs (c.client.encode k.opcode fs fresh).mChecksumCalculator.checksumByteSize =
      (k.entry.tmpSizes (fs.map Field.received)).sum + ChecksumCalculator.byteSize P.version := by
    rw [EntryPoint.replySize, sound.readbacks_eq fields, next.adding.byteSize_eq]
  generalize hx : c.client.encode k.opcode fs fresh = x at inside next pending total
  let p : Packet γ := ⟨k.entry, k.opcode, fs, stale⟩
  have waits : k.entry.readsBack fs c.client.useChecksum = true ∧
      k.entry.replySize fs x.mChecksumCalculator.checksumByteSize > 0 ↔ p.awaited P.version = true := by
    rw [Packet.awaited, Request.awaited, Bool.and_eq_true, decide_eq_true_iff, total]
    constructor
    · exact fun reads => ⟨sound.replies_of_readsBack fields reads.1, reads.2⟩
    · intro awaited
      refine ⟨sound.readsBack_of_replies fields awaited.1 ?_ (total ▸ awaited.2), awaited.2⟩
      intro some
      rw [next.adding.byteSize_eq] at some
      rw [Client.useChecksum, h.guest.kind]
      cases P.known with
      | inl zero => rw [zero] at some; cases some
      | inr one => rw [one]; rfl
  -- the stream as it stands when the encoder's function waits or returns
  obtain ⟨y, hy, still, same, calculator, flushed⟩ : ∃ y,
      (if k.entry.flushOnEncode = true ∨ k.entry.readsBack fs c.client.useChecksum = true then x.flush
        else x) = y ∧ y.mStream.Inside ∧ y.mStream.pending = x.mStream.pending ∧
      y.mChecksumCalculator = x.mChecksumCalculator ∧
      (p.awaited P.version = true → y.mStream.held = []) := by
    split_ifs with flush
    · exact ⟨_, rfl, inside.flush, QemuPipeStream.pending_flush _, rfl,
        fun _ => QemuPipeStream.held_flush _⟩
    · exact ⟨_, rfl, inside, rfl, rfl, fun awaited => absurd (Or.inr (waits.mpr awaited).1) flush⟩
  have request : p.request = k.request := by rw [Call.request, hfs]; rfl
  have called : c.call k fresh = { c with
      client := y
      waiting := if p.awaited P.version = true then some (k.entry, fs) else none
      issued := c.issued ++ [k.request] } := by
    rw [Connection.call, hfs, hx, hy]
    simp only [waits]
  have issued : c.issued.length = xs.length + todo.length := by
    rw [h.issued, List.length_append, List.length_map, List.length_map]
  rw [called]
  refine ⟨p, request, still, ?_, ?_, ?_, ?_, ?_, h.host, ?_, ?_⟩
  · intro q hq
    cases List.mem_append.mp hq with
    | inl hq => exact h.wellFormed q hq
    | inr hq =>
      obtain rfl := List.mem_singleton.mp hq
      refine ⟨fields, opcode, size, fun count => ?_⟩
      rw [← length, Packet.bytes, List.length_append, Client.packet, Client.packet, List.length_append,
        List.length_append, ChecksumCalculator.length_packetChecksum,
        ChecksumCalculator.length_packetChecksum]
  · intro q hq
    cases List.mem_append.mp hq with
    | inl hq => exact h.entries q hq
    | inr hq =>
      obtain rfl := List.mem_singleton.mp hq
      exact ⟨sound, k.api, k.mem, k.find⟩
  · dsimp only
    rw [h.issued, List.map_append, List.append_assoc, List.map_singleton, request]
  · dsimp only
    rw [same, pending, Packet.stream_append, ← h.bytes, Packet.stream, Packet.stream, ← issued,
      List.append_nil, Packet.bytes]
    simp only [List.append_assoc]
    rfl
  · dsimp only
    rw [calculator, List.length_append, List.length_singleton]
    exact next
  · intro stopped q hq
    cases todo with
    | cons first todo => exact h.stalled stopped q hq
    | nil =>
      obtain rfl := Option.some.inj hq
      obtain ⟨empty, -⟩ := List.append_eq_nil_iff.mp h.bytes
      dsimp only
      rw [empty, Packet.bytes, Client.packet, Client.body]
      simp only [List.length_append, length_little, List.length_nil]
      omega
  · cases h.waits with
    | called waiting => rw [idle] at waiting; cases waiting
    | answered waiting => rw [idle] at waiting; cases waiting
    | free waiting quiet returned replies =>
      cases awaited : p.awaited P.version with
      | true => exact .called rfl (flushed awaited) quiet awaited returned replies
      | false =>
        refine .free rfl ?_ returned replies
        intro q hq
        cases List.mem_append.mp hq with
        | inl hq => exact quiet q hq
        | inr hq => exact List.mem_singleton.mp hq ▸ awaited

/-- Whatever a round serves, the answer comes where it is waited for. -/
theorem Waits.served (H : Host γ σ) (s : σ) {done left : List (Packet γ)}
    (h : Waits P c xs (done ++ left)) (sizes : ∀ p ∈ done ++ left, p.entry.readbacks p.fields =
      p.entry.tmpSizes (p.fields.map Field.received)) {progress : Bool} {u : RenderThread γ σ}
    {rest : List UInt8}
    (sent : u.sent = replies P.version (answersOf P.version xs).length (H.serve s done).1) :
    Waits P (c.served progress u rest) (xs ++ (H.serve s done).1) left := by
  generalize htodo : done ++ left = todo at h sizes
  cases h with
  | free waiting quiet returned none =>
    rw [← htodo] at quiet
    have still : ∀ p ∈ done, p.awaited P.version = false :=
      fun p hp => quiet p (List.mem_append_left left hp)
    refine .free waiting (fun p hp => quiet p (List.mem_append_right done hp)) ?_ ?_
    · rw [answersOf_append, answersOf_of_quiet H s still, List.append_nil]
      exact returned
    · rw [Connection.served]
      dsimp only
      rw [none, sent, replies_of_quiet H s still]
      rfl
  | @called before p waiting flushed quiet awaited returned none =>
    cases List.eq_nil_or_concat left with
    | inl last =>
      subst last
      rw [List.append_nil] at htodo
      subst htodo
      obtain ⟨answers, executed, lengths, reply⟩ :=
        replies_last P.known H s quiet awaited (answersOf P.version xs).length
      have logged : answersOf P.version (xs ++ (H.serve s (before ++ [p])).1) = c.returned ++ [answers] := by
        rw [answersOf_append, executed, returned]
      refine .answered waiting flushed logged ?_ ?_
      · rw [lengths, sizes p (List.mem_append_right before (List.mem_singleton_self p))]
      · rw [Connection.served]
        dsimp only
        rw [none, sent, reply, returned]
        rfl
    | inr more =>
      obtain ⟨others, q, rfl⟩ := more
      rw [List.concat_eq_append, ← List.append_assoc] at htodo
      obtain ⟨rfl, same⟩ := List.append_inj' htodo rfl
      obtain rfl := List.singleton_inj.mp same
      have still : ∀ p ∈ done, p.awaited P.version = false :=
        fun p hp => quiet p (List.mem_append_left others hp)
      rw [List.concat_eq_append]
      refine .called waiting flushed (fun p hp => quiet p (List.mem_append_right done hp)) awaited ?_ ?_
      · rw [answersOf_append, answersOf_of_quiet H s still, List.append_nil]
        exact returned
      · rw [Connection.served]
        dsimp only
        rw [none, sent, replies_of_quiet H s still]
        rfl
  | answered waiting flushed returned lengths reply =>
    obtain ⟨rfl, rfl⟩ := List.append_eq_nil_iff.mp htodo
    refine .answered waiting flushed ?_ lengths ?_
    · rw [Host.serve, List.append_nil]
      exact returned
    · rw [Connection.served]
      dsimp only
      rw [sent, Host.serve, replies, List.append_nil]
      exact reply

/-- A round of the thread makes the calls whose packets are there, and sends their answers. -/
theorem Connected.pass (h : Connected P c xs todo) (H : Host γ σ) (s : σ) :
    ∃ done left progress u rest, todo = done ++ left ∧
      RenderThread.pass H P.apis ⟨s, [], c.protocol, []⟩ c.buffer = .ok (progress, u, rest) ∧
      c.buffer = Packet.stream P.version xs.length done ++ rest ∧ progress = !done.isEmpty ∧
      u.host = (H.serve s done).2 ∧ u.calls = (H.serve s done).1 ∧
      Connected P (c.served progress u rest) (xs ++ (H.serve s done).1) left := by
  have entries : ∀ p ∈ todo, ∀ a ∈ P.apis, ∀ e, a.find p.opcode = some e → e = p.entry := by
    intro p hp a ha e he
    obtain ⟨-, b, hb, find⟩ := h.entries p hp
    exact P.entry_unique ha hb he find
  obtain ⟨done, left, rest, u, rfl, split, passed, served, stops⟩ :=
    RenderThread.pass_stream (H := H) (t := ⟨s, [], c.protocol, []⟩) P.known h.wellFormed entries
      h.host h.bytes
  have bytes := h.bytes
  rw [split, Packet.stream_append, List.append_assoc] at bytes
  refine ⟨done, left, _, u, rest, rfl, passed, split, rfl, served.host, served.calls, ?_⟩
  have sizes : ∀ p ∈ done ++ left, p.entry.readbacks p.fields =
      p.entry.tmpSizes (p.fields.map Field.received) :=
    fun p hp => (h.entries p hp).1.readbacks_eq (h.wellFormed p hp).fields
  refine ⟨h.inside, ?_, ?_, ?_, ?_, h.guest, ?_, ?_, h.waits.served H s sizes served.sent⟩
  · exact fun p hp => h.wellFormed p (List.mem_append_right done hp)
  · exact fun p hp => h.entries p (List.mem_append_right done hp)
  · rw [List.map_append, List.append_assoc, serve_requests, ← List.map_append]
    exact h.issued
  · rw [List.length_append, length_serve]
    exact List.append_cancel_left bytes
  · rw [answersOf_append, List.length_append, List.length_append, length_serve, length_answersOf_serve]
    exact idle_count P.known served.idle
  · intro stopped p hp
    cases done with
    | cons q done => cases stopped
    | nil =>
      obtain rfl : c.buffer = rest := split
      rw [Host.serve, List.append_nil]
      cases stops rfl p hp with
      | inl short => exact short
      | inr unknown =>
        obtain ⟨-, a, ha, find⟩ := h.entries p (List.mem_of_mem_head? hp)
        rw [unknown a ha] at find
        cases find

/-- The buffers that were read back are added. -/
theorem addBuffers_adding {x : Client} {read write n : Nat}
    (h : ChecksumCalculator.Adding version read write n x.mChecksumCalculator)
    (pieces : List (List UInt8)) :
    (pieces.foldl (fun y piece => y.addBuffer piece.length) x).mStream = x.mStream ∧
    ChecksumCalculator.Adding version read write (n + pieces.flatten.length)
      (pieces.foldl (fun y piece => y.addBuffer piece.length) x).mChecksumCalculator := by
  induction pieces generalizing x n with
  | nil => exact ⟨rfl, h⟩
  | cons piece pieces ih =>
    obtain ⟨stream, adding⟩ := ih (Client.addBuffer_adding piece.length h)
    rw [List.foldl_cons, List.flatten_cons, List.length_append, ← Nat.add_assoc]
    exact ⟨stream.trans (Client.addBuffer_stream x piece.length), adding⟩

/-- An answer that is there as a whole is read, and its checksum is right. -/
theorem readback_answers (known : version = 0 ∨ version = 1) {x : Client} {read write : Nat}
    (h : ChecksumCalculator.Idle version read write x.mChecksumCalculator)
    {answers : List (List UInt8)} {sizes : List Nat} (lengths : answers.map List.length = sizes) :
    ∃ y, x.readback sizes (answers.flatten ++
        ChecksumCalculator.packetChecksum version answers.flatten.length read) = some (.ok (answers, [], y)) ∧
      y.mStream = x.mStream ∧
      ChecksumCalculator.Idle version (read + 1) write y.mChecksumCalculator := by
  rw [Client.readback, splitFronts_flatten lengths, Option.bind_some, Client.useChecksum, h.kind]
  cases known with
  | inl zero =>
    subst zero
    have other : (0 : UInt32) ≠ 1 := by decide
    exact ⟨x, rfl, rfl, h.kind, fun one => absurd one other, fun one => absurd one other,
      fun one => absurd one other⟩
  | inr one =>
    subst one
    obtain ⟨stream, adding⟩ := addBuffers_adding h.adding answers
    rw [Nat.zero_add] at adding
    have size := ChecksumCalculator.length_packetChecksum 1 answers.flatten.length read
    have front := splitFront_append size []
    rw [List.append_nil] at front
    obtain ⟨accepted, idle⟩ := adding.validated
      (ChecksumCalculator.packetChecksum 1 answers.flatten.length read)
    rw [if_pos (by decide)]
    dsimp only
    rw [adding.byteSize_eq, front, Option.map_some, accepted, decide_eq_true rfl, if_pos rfl]
    exact ⟨_, rfl, stream, idle⟩

theorem length_splitFronts {sizes : List Nat} {b : List UInt8} {q : List (List UInt8) × List UInt8}
    (h : splitFronts sizes b = some q) : b.length = sizes.sum + q.2.length := by
  induction sizes generalizing b q with
  | nil =>
    obtain rfl := Option.some.inj h
    exact (Nat.zero_add _).symm
  | cons n sizes ih =>
    rw [splitFronts, Option.bind_eq_some_iff] at h
    obtain ⟨⟨front, tail⟩, first, later⟩ := h
    obtain ⟨q, rest, rfl⟩ := Option.map_eq_some_iff.mp later
    rw [length_splitFront first, ih rest, List.sum_cons, Nat.add_assoc]

/-- Reading back waits for all bytes of the answer. -/
theorem length_readback (known : version = 0 ∨ version = 1) {x : Client} {read write : Nat}
    (h : ChecksumCalculator.Idle version read write x.mChecksumCalculator) {sizes : List Nat}
    {replies : List UInt8} {r} (hr : x.readback sizes replies = some r) :
    sizes.sum + ChecksumCalculator.byteSize version ≤ replies.length := by
  rw [Client.readback, Option.bind_eq_some_iff] at hr
  obtain ⟨q, front, rest⟩ := hr
  have length := length_splitFronts front
  rw [Client.useChecksum, h.kind] at rest
  cases known with
  | inl zero =>
    subst zero
    rw [length]
    exact Nat.le_add_right _ _
  | inr one =>
    subst one
    obtain ⟨stream, adding⟩ := addBuffers_adding h.adding q.1
    rw [if_pos (by decide)] at rest
    dsimp only at rest
    rw [adding.byteSize_eq] at rest
    obtain ⟨p, sum, -⟩ := Option.map_eq_some_iff.mp rest
    have size := length_splitFront sum
    omega

/-- What is read back is the answer of the call that is waited for. -/
theorem Connected.readback (h : Connected P c xs todo) {w : EntryPoint γ × List Field}
    (waiting : c.waiting = some w) {r}
    (hr : c.client.readback (w.1.readbacks w.2) c.replies = some r) :
    ∃ pieces rest x, r = .ok (pieces, rest, x) ∧ Connected P (c.answered pieces rest x) xs todo := by
  have length := length_readback P.known h.guest hr
  cases hw : h.waits with
  | free none => rw [none] at waiting; cases waiting
  | @called before p known flushed quiet awaited returned replies =>
    -- its answer has bytes, none of which are there
    obtain rfl := Option.some.inj (known.symm.trans waiting)
    have last := List.mem_append_right before (List.mem_singleton_self p)
    obtain ⟨-, some⟩ := Bool.and_eq_true_iff.mp awaited
    have some : 0 < (p.entry.tmpSizes (p.fields.map Field.received)).sum +
      ChecksumCalculator.byteSize P.version := of_decide_eq_true some
    rw [← (h.entries p last).1.readbacks_eq (h.wellFormed p last).fields] at some
    rw [replies, List.length_nil] at length
    dsimp only at length
    omega
  | @answered e fs answers known flushed returned sizes replies =>
    obtain rfl := Option.some.inj (known.symm.trans waiting)
    obtain ⟨y, read, stream, idle⟩ := readback_answers P.known h.guest sizes
    rw [replies] at hr
    obtain rfl := Option.some.inj (read.symm.trans hr)
    refine ⟨answers, [], y, rfl, ?_, nofun, nofun, h.issued, ?_, ?_, h.host, h.stalled,
      .free rfl nofun returned.symm rfl⟩
    · rw [Connection.answered, stream]
      exact h.inside
    · rw [Connection.answered, stream]
      exact h.bytes
    · rw [Connection.answered, List.length_append]
      exact idle

end Anbox.Emugen
