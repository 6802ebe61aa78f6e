import Anbox.Emugen.RemoteCalls

namespace Anbox.Emugen

open Anbox.Framework

variable {γ σ ι : Type*} [DecidableEq ι]

/-- Calls made one after the other by nobody but the host itself, each on the thread of its
connection. -/
inductive Replays (H : ι → Host γ σ) : σ → List (ι × Executed γ) → σ → Prop where
  | nil (s : σ) : Replays H s [] s
  | cons {s t : σ} {c : ι} {x : Executed γ} {xs : List (ι × Executed γ)}
      (answers : x.answers = ((H c).exec s x.entry x.received).1)
      (rest : Replays H ((H c).exec s x.entry x.received).2 xs t) : Replays H s ((c, x) :: xs) t

variable {H : ι → Host γ σ} {P : Protocol γ} {s₀ : σ}

omit [DecidableEq ι] in
theorem Replays.append {s t u : σ} {xs ys : List (ι × Executed γ)} (h : Replays H s xs t)
    (k : Replays H t ys u) : Replays H s (xs ++ ys) u := by
  induction h with
  | nil => exact k
  | cons answers rest ih => exact .cons answers (ih k)

omit [DecidableEq ι] in
theorem replays_serve (H : ι → Host γ σ) (c : ι) (s : σ) (ps : List (Packet γ)) :
    Replays H s (((H c).serve s ps).1.map fun x => (c, x)) ((H c).serve s ps).2 := by
  induction ps generalizing s with
  | nil => exact .nil s
  | cons p ps ih => exact .cons rfl (ih _)

/-- The calls of one connection. -/
def callsOf (c : ι) (log : List (ι × Executed γ)) : List (Executed γ) :=
  log.filterMap fun q => if q.1 = c then some q.2 else none

theorem callsOf_append_self (c : ι) (log : List (ι × Executed γ)) (xs : List (Executed γ)) :
    callsOf c (log ++ xs.map fun x => (c, x)) = callsOf c log ++ xs := by
  rw [callsOf, List.filterMap_append, List.filterMap_map]
  have own : (fun q : ι × Executed γ => if q.1 = c then some q.2 else none) ∘ (fun x => (c, x)) = some :=
    funext fun x => if_pos rfl
  rw [own, List.filterMap_some]
  rfl

theorem callsOf_append_other {c d : ι} (other : d ≠ c) (log : List (ι × Executed γ))
    (xs : List (Executed γ)) : callsOf d (log ++ xs.map fun x => (c, x)) = callsOf d log := by
  rw [callsOf, List.filterMap_append, List.filterMap_map]
  have none : (fun q : ι × Executed γ => if q.1 = d then some q.2 else none) ∘ (fun x => (c, x)) =
      fun _ => none := funext fun x => if_neg (Ne.symm other)
  rw [none, List.filterMap_none, List.append_nil]
  rfl

/-- The host has made the calls of the log, and every connection stands as its own part of the log
tells. -/
structure Remoted (H : ι → Host γ σ) (P : Protocol γ) (s₀ : σ) (s : Remote γ σ ι) : Prop where
  sound : s.fault = none
  replays : Replays H s₀ s.log s.host
  connected : ∀ c, ∃ todo, Connected P (s.conn c) (callsOf c s.log) todo

theorem remoted_init (H : ι → Host γ σ) (P : Protocol γ) (s₀ : σ) (bufSize : Nat) :
    Remoted H P s₀ (Remote.init P.version bufSize s₀ : Remote γ σ ι) :=
  ⟨rfl, .nil s₀, fun _ => ⟨[], connected_init P bufSize⟩⟩

variable {s t : Remote γ σ ι}

@[simp] theorem set_conn_self (s : Remote γ σ ι) (c : ι) (conn : Connection γ) :
    (s.set c conn).conn c = conn := Function.update_self ..

theorem set_conn_other {c d : ι} (other : d ≠ c) (s : Remote γ σ ι) (conn : Connection γ) :
    (s.set c conn).conn d = s.conn d := Function.update_of_ne other ..

/-- What happens on one connection leaves the others alone. -/
theorem Remoted.set (h : Remoted H P s₀ s) {c : ι} {conn : Connection γ} {todo : List (Packet γ)}
    (k : Connected P conn (callsOf c s.log) todo) : Remoted H P s₀ (s.set c conn) := by
  refine ⟨h.sound, h.replays, fun d => ?_⟩
  by_cases same : d = c
  · subst same
    rw [set_conn_self]
    exact ⟨todo, k⟩
  · rw [set_conn_other same]
    exact h.connected d

theorem Remoted.pass (h : Remoted H P s₀ s) (c : ι) : Remoted H P s₀ (s.pass H P c) := by
  obtain ⟨todo, connected⟩ := h.connected c
  obtain ⟨done, left, progress, u, rest, -, passed, -, -, host, calls, after⟩ :=
    connected.pass (H c) s.host
  rw [Remote.pass, passed]
  dsimp only
  rw [host, calls]
  refine ⟨h.sound, ?_, fun d => ?_⟩
  · exact h.replays.append (replays_serve H c s.host done)
  · by_cases same : d = c
    · subst same
      rw [set_conn_self]
      exact ⟨left, (callsOf_append_self d s.log _).symm ▸ after⟩
    · rw [set_conn_other same]
      obtain ⟨others, connected⟩ := h.connected d
      exact ⟨others, (callsOf_append_other same s.log _).symm ▸ connected⟩

theorem step_remoted {a : Action P ι} (h : Remoted H P s₀ s) (hs : step H P s a = some t) :
    Remoted H P s₀ t := by
  unfold step at hs
  rw [if_neg (by rw [h.sound]; exact Bool.false_ne_true)] at hs
  cases a with
  | call c k fresh =>
    obtain ⟨free, same⟩ := Option.ite_none_left_eq_some.mp hs
    obtain rfl := Option.some.inj same
    obtain ⟨todo, connected⟩ := h.connected c
    have idle : (s.conn c).waiting = none := by simpa using (not_or.mp free).1
    obtain ⟨p, -, called⟩ := connected.call idle k fresh
    exact h.set called
  | deliver c n =>
    obtain ⟨-, same⟩ := Option.ite_none_left_eq_some.mp hs
    obtain rfl := Option.some.inj same
    obtain ⟨todo, connected⟩ := h.connected c
    exact h.set (connected.deliver n)
  | pass c =>
    obtain ⟨-, same⟩ := Option.ite_none_right_eq_some.mp hs
    obtain rfl := Option.some.inj same
    exact h.pass c
  | readback c =>
    obtain ⟨w, waiting, read⟩ := Option.bind_eq_some_iff.mp hs
    obtain ⟨r, hr, rfl⟩ := Option.map_eq_some_iff.mp read
    obtain ⟨todo, connected⟩ := h.connected c
    obtain ⟨pieces, rest, x, rfl, answered⟩ := connected.readback waiting hr
    exact h.set answered

theorem run_remoted {as : List (Action P ι)} (h : Remoted H P s₀ s)
    (hr : run (step H P) s as = some t) : Remoted H P s₀ t :=
  invariant_run (P := fun _ _ => True) (fun _ _ _ h _ hs => step_remoted h hs) h
    (along_of_forall (fun _ _ _ => trivial) s) hr

/-- Whatever order the connections' steps come in and however the bytes are cut: no checksum fails and
no decoder goes wrong; the host's state and all answers are those of the calls of the log made one
after the other; of each connection the log holds the first of the calls it issued, each once, in their
order and with the arguments that were passed; and what its calls returned are the answers of its
calls in the log. While it does not wait these are all of them, and of the calls that are left no
bytes come back. -/
theorem remoting_linearizable {bufSize : Nat} {as : List (Action P ι)} {s : Remote γ σ ι}
    (hr : run (step H P) (Remote.init P.version bufSize s₀) as = some s) :
    s.fault = none ∧ Replays H s₀ s.log s.host ∧
    ∀ c, (callsOf c s.log).map Executed.toRequest <+: (s.conn c).issued ∧
      (s.conn c).returned <+: answersOf P.version (callsOf c s.log) ∧
      ((s.conn c).waiting = none →
        (s.conn c).returned = answersOf P.version (callsOf c s.log) ∧
        ∀ r ∈ (s.conn c).issued.drop (callsOf c s.log).length, r.awaited P.version = false) := by
  have remoted := run_remoted (remoted_init H P s₀ bufSize) hr
  refine ⟨remoted.sound, remoted.replays, fun c => ?_⟩
  obtain ⟨todo, connected⟩ := remoted.connected c
  have left : (s.conn c).issued.drop (callsOf c s.log).length = todo.map Packet.request := by
    rw [connected.issued]
    exact List.drop_left' (List.length_map _)
  refine ⟨⟨_, connected.issued.symm⟩, ?_⟩
  cases connected.waits with
  | free waiting quiet returned =>
    refine ⟨⟨[], by rw [returned, List.append_nil]⟩, fun _ => ⟨returned, ?_⟩⟩
    rw [left]
    intro r hr
    obtain ⟨p, hp, rfl⟩ := List.mem_map.mp hr
    exact quiet p hp
  | called waiting flushed quiet awaited returned =>
    refine ⟨⟨[], by rw [returned, List.append_nil]⟩, fun none => ?_⟩
    rw [none] at waiting
    cases waiting
  | answered waiting flushed returned =>
    refine ⟨⟨_, returned.symm⟩, fun none => ?_⟩
    rw [none] at waiting
    cases waiting

/-! An answer that is waited for comes. -/

def Action.conn : Action P ι → ι
  | .call c _ _ => c
  | .deliver c _ => c
  | .pass c => c
  | .readback c => c

/-- How many steps of its own a connection can take at most until its bytes are used up. -/
def Connection.work (c : Connection γ) : Nat :=
  4 * c.client.mStream.sent.length + 2 * c.buffer.length + c.decoding.toNat

/-- Nothing but its own steps changes a connection. -/
theorem step_other {a : Action P ι} (hs : step H P s a = some t) {c : ι} (other : a.conn ≠ c) :
    t.conn c = s.conn c := by
  unfold step at hs
  obtain ⟨-, hs⟩ := Option.ite_none_left_eq_some.mp hs
  cases a with
  | call d k fresh =>
    obtain ⟨-, same⟩ := Option.ite_none_left_eq_some.mp hs
    exact Option.some.inj same ▸ set_conn_other other.symm s _
  | deliver d n =>
    obtain ⟨-, same⟩ := Option.ite_none_left_eq_some.mp hs
    exact Option.some.inj same ▸ set_conn_other other.symm s _
  | pass d =>
    obtain ⟨-, same⟩ := Option.ite_none_right_eq_some.mp hs
    rw [← Option.some.inj same, Remote.pass]
    split
    · rfl
    · exact set_conn_other other.symm _ _
  | readback d =>
    obtain ⟨w, -, read⟩ := Option.bind_eq_some_iff.mp hs
    obtain ⟨r, -, rfl⟩ := Option.map_eq_some_iff.mp read
    cases r with
    | error fault => rfl
    | ok q => exact set_conn_other other.symm s _

theorem work_deliver {c : Connection γ} {n : Nat} (waits : c.decoding = false) (some : 0 < n)
    (enough : n ≤ c.client.mStream.sent.length) : (c.deliver n).work < c.work := by
  rw [Connection.work, Connection.work, Connection.deliver, waits]
  dsimp only
  rw [List.length_drop, List.length_append, List.length_take, Bool.toNat_true, Bool.toNat_false]
  omega

theorem work_served {c : Connection γ} {xs : List (Executed γ)} {done left : List (Packet γ)}
    (h : Connected P c xs (done ++ left)) (decoding : c.decoding = true) (u : RenderThread γ σ)
    {rest : List UInt8} (split : c.buffer = Packet.stream P.version xs.length done ++ rest) :
    (c.served (!done.isEmpty) u rest).work < c.work := by
  have size := congrArg List.length split
  rw [List.length_append] at size
  rw [Connection.work, Connection.work, Connection.served, decoding]
  dsimp only
  cases done with
  | nil =>
    change 4 * _ + 2 * rest.length + 0 < 4 * _ + 2 * c.buffer.length + 1
    rw [Packet.stream, List.length_nil] at size
    omega
  | cons p done =>
    have some := ((h.wellFormed p List.mem_cons_self).header xs.length []).2.2
    change 4 * _ + 2 * rest.length + 1 < 4 * _ + 2 * c.buffer.length + 1
    rw [Packet.stream, List.length_append] at size
    omega

/-- A step that a waiting connection takes, other than to read its answer, uses up some of its work. -/
theorem work_step (h : Remoted H P s₀ s) {a : Action P ι} {c : ι} {w : EntryPoint γ × List Field}
    (waiting : (s.conn c).waiting = some w) (hs : step H P s a = some t) (own : a.conn = c)
    (more : a ≠ .readback c) :
    (t.conn c).waiting = some w ∧ (t.conn c).work < (s.conn c).work := by
  unfold step at hs
  rw [if_neg (by rw [h.sound]; exact Bool.false_ne_true)] at hs
  cases a with
  | call d k fresh =>
    obtain rfl : d = c := own
    obtain ⟨free, -⟩ := Option.ite_none_left_eq_some.mp hs
    exact absurd (Or.inl (by rw [waiting]; rfl)) free
  | deliver d n =>
    obtain rfl : d = c := own
    obtain ⟨ready, same⟩ := Option.ite_none_left_eq_some.mp hs
    obtain rfl := Option.some.inj same
    simp only [not_or, Bool.not_eq_true] at ready
    rw [set_conn_self]
    exact ⟨waiting, work_deliver ready.1 (Nat.pos_of_ne_zero ready.2.1) (Nat.le_of_not_lt ready.2.2)⟩
  | pass d =>
    obtain rfl : d = c := own
    obtain ⟨decoding, same⟩ := Option.ite_none_right_eq_some.mp hs
    obtain ⟨todo, connected⟩ := h.connected d
    obtain ⟨done, left, progress, u, rest, rfl, passed, split, rfl, -⟩ := connected.pass (H d) s.host
    rw [← Option.some.inj same, Remote.pass, passed]
    dsimp only
    rw [set_conn_self]
    exact ⟨waiting, work_served connected decoding u split⟩
  | readback d =>
    obtain rfl : d = c := own
    exact absurd rfl more

/-- A connection that waits is never stuck. -/
theorem step_waiting (h : Remoted H P s₀ s) {c : ι} {w : EntryPoint γ × List Field}
    (waiting : (s.conn c).waiting = some w) :
    ∃ a : Action P ι, a.conn = c ∧ (step H P s a).isSome = true := by
  obtain ⟨todo, connected⟩ := h.connected c
  have alive : ¬ s.fault.isSome = true := by rw [h.sound]; exact Bool.false_ne_true
  cases decoding : (s.conn c).decoding with
  | true =>
    refine ⟨.pass c, rfl, ?_⟩
    rw [step, if_neg alive, if_pos decoding]
    rfl
  | false =>
    by_cases some : 0 < (s.conn c).client.mStream.sent.length
    · refine ⟨.deliver c 1, rfl, ?_⟩
      rw [step, if_neg alive, if_neg]
      · rfl
      · rw [decoding]
        simp only [Bool.false_eq_true, false_or]
        omega
    · -- all that was sent has been read
      have none : (s.conn c).client.mStream.sent = [] := List.eq_nil_of_length_eq_zero (by omega)
      have bytes := connected.bytes
      have stalled := connected.stalled decoding
      cases connected.waits with
      | free idle => rw [idle] at waiting; cases waiting
      | @called before p known flushed =>
        rw [QemuPipeStream.pending, none, flushed, List.append_nil, List.append_nil] at bytes
        cases before with
        | nil =>
          have short := stalled p rfl
          rw [bytes, List.nil_append, Packet.stream, List.length_append] at short
          omega
        | cons q before =>
          have short := stalled q rfl
          rw [bytes, List.cons_append, Packet.stream, List.length_append] at short
          omega
      | @answered e fs answers known flushed returned sizes replies =>
        obtain ⟨y, read, -⟩ := readback_answers P.known connected.guest sizes
        refine ⟨.readback c, rfl, ?_⟩
        rw [step, if_neg alive, known, Option.bind_some, replies]
        dsimp only
        rw [read]
        rfl

/-- A call that waits for its answer gets it: whatever the other connections do, its own one takes no
more than a bounded number of steps before the answer is read, and until then it can always take
one. -/
theorem answer_comes {bufSize : Nat} {as bs : List (Action P ι)} {s t : Remote γ σ ι}
    (hs : run (step H P) (Remote.init P.version bufSize s₀) as = some s) {c : ι}
    {w : EntryPoint γ × List Field} (waiting : (s.conn c).waiting = some w)
    (ht : run (step H P) s bs = some t) (unread : ∀ a ∈ bs, a ≠ .readback c) :
    (t.conn c).waiting = some w ∧
    (bs.filter fun a => a.conn = c).length + (t.conn c).work ≤ (s.conn c).work ∧
    ∃ a : Action P ι, a.conn = c ∧ (step H P t a).isSome = true := by
  have remoted := run_remoted (remoted_init H P s₀ bufSize) hs
  clear hs
  induction bs generalizing s with
  | nil =>
    obtain rfl := Option.some.inj ht
    exact ⟨waiting, by simp, step_waiting remoted waiting⟩
  | cons a bs ih =>
    obtain ⟨u, hu, ht⟩ := run_cons ht
    obtain ⟨first, later⟩ := List.forall_mem_cons.mp unread
    by_cases own : a.conn = c
    · obtain ⟨still, less⟩ := work_step remoted waiting hu own first
      obtain ⟨ends, bound, next⟩ := ih still ht later (step_remoted remoted hu)
      refine ⟨ends, ?_, next⟩
      rw [List.filter_cons_of_pos (by simpa using own), List.length_cons]
      omega
    · have same := step_other hu own
      rw [← same] at waiting ⊢
      rw [List.filter_cons_of_neg (by simpa using own)]
      exact ih waiting ht later (step_remoted remoted hu)

end Anbox.Emugen
