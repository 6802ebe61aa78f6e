import Anbox.Rpc.Session

namespace Anbox.Rpc.Session

open Anbox.Framework
open PendingCallCache (Linked Kept FreshId Calling)

/-- What the skeleton answers with, where it answers once and no exception goes on. -/
def responseOf (methods : List (String × Method)) (methodName : String) (parameters : List UInt8) :
    Option (List UInt8) :=
  (methods.lookup methodName).bind fun m =>
    (m.parseFromString parameters).bind fun parameterMessage =>
      match m.function parameterMessage with
      | .runs result => some (m.serialize result)
      | .raisesBefore final (.exception what) =>
        some (m.serialize (m.setError ("Error processing request: " ++ what) final))
      | _ => none

theorem invoke_response {m : Method} {invocation : Invocation} {bytes : List UInt8}
    {results : List Result}
    (h : ((m.parseFromString invocation.parameters).bind fun parameterMessage =>
      match m.function parameterMessage with
      | .runs result => some (m.serialize result)
      | .raisesBefore final (.exception what) =>
        some (m.serialize (m.setError ("Error processing request: " ++ what) final))
      | _ => none) = some bytes) :
    invoke m invocation results = .ok () (results ++ [⟨some invocation.id, some bytes, []⟩]) := by
  obtain ⟨parameterMessage, parsed, made⟩ := Option.bind_eq_some_iff.mp h
  rw [invoke, parsed]
  dsimp only
  cases called : m.function parameterMessage with
  | runs result =>
    rw [called] at made
    rw [← Option.some.inj made]
    rfl
  | raisesBefore final x =>
    cases x with
    | exception what =>
      rw [called] at made
      rw [← Option.some.inj made]
      rfl
    | other => rw [called] at made; cases made
  | raisesAfter result final x => rw [called] at made; cases made

theorem dispatchTo_response {methods : List (String × Method)} {invocation : Invocation}
    {bytes : List UInt8} {results : List Result}
    (h : responseOf methods invocation.methodName invocation.parameters = some bytes) :
    dispatchTo methods invocation results =
      .ok () (results ++ [⟨some invocation.id, some bytes, []⟩]) := by
  induction methods with
  | nil => cases h
  | cons entry rest ih =>
    obtain ⟨name, m⟩ := entry
    rw [dispatchTo]
    by_cases same : invocation.methodName = name
    · rw [if_pos same]
      rw [responseOf, same, List.lookup_cons_self, Option.bind_some] at h
      exact invoke_response h
    · have differs : (invocation.methodName == name) = false := by simpa using same
      rw [if_neg same]
      apply ih
      rwa [responseOf, List.lookup_cons, differs] at h

/-- Two ends that fit each other: each call is of a method that the other end has and answers, and
neither the invocation nor its response is too long for the length in a header. -/
structure Bridge (κ : Type) where
  ends : Side → Endpoint κ
  answer : Side → κ → List UInt8
  answers : ∀ side c, responseOf (ends side.other).methods ((ends side).methodName c)
    ((ends side).parameters c) = some (answer side c)
  invocation_fits : ∀ side id c, ((ends side).outgoing id c).message.payload.length < 2^24
  response_fits : ∀ side id c, (Outgoing.response id (answer side c)).message.payload.length < 2^24

/-- What is under way from one end: a call of its own, the response to a call of the other end, or an
event. -/
inductive Parcel (κ : Type) where
  | invocation (id : UInt32) (c : κ)
  | response (id : UInt32) (c : κ)
  | event (bytes : List UInt8)

variable {κ : Type}

def Parcel.outgoing (B : Bridge κ) (side : Side) : Parcel κ → Outgoing
  | .invocation id c => (B.ends side).outgoing id c
  | .response id c => .response id (B.answer side.other c)
  | .event bytes => .event bytes

def Parcel.bytes (B : Bridge κ) (side : Side) (p : Parcel κ) : List UInt8 :=
  headerBytes (p.outgoing B side).message.payload.length (p.outgoing B side).message.messageType ++
    (p.outgoing B side).message.payload

variable [DecidableEq κ]

def Parcel.asks (c : κ) : Parcel κ → Bool
  | .invocation _ d => d = c
  | _ => false

def Parcel.answers (c : κ) : Parcel κ → Bool
  | .response _ d => d = c
  | _ => false

/-- The call whose result the reading thread has in hand. -/
def handling (s : PendingCallCache.State κ (List UInt8)) : Option κ :=
  match s.reading with
  | .idle => none
  | .populated id => s.pendingCalls_.lookup id
  | .completing _ completion => completion

/-- In how many places a call is that has been sent and of which the reading thread has not yet gone
on. -/
def places (s : PendingCallCache.State κ (List UInt8)) (out back : List (Parcel κ)) (c : κ) : Nat :=
  out.countP (Parcel.asks c) + back.countP (Parcel.answers c) +
    (if handling s = some c then 1 else 0) + s.runs c

/-- The calls of one end, with what is under way from it and to it: a call that has been sent is in one
place, a call that has not is in none. -/
structure Calls (answer : κ → List UInt8) (s : PendingCallCache.State κ (List UInt8))
    (out back : List (Parcel κ)) : Prop where
  linked : Linked s
  kept : Kept s
  asks : ∀ id c, .invocation id c ∈ out → s.calling c = .saved id .sent
  answers : ∀ id c, .response id c ∈ back → s.calling c = .saved id .sent
  sent : ∀ c id, s.calling c = .saved id .sent → places s out back c = 1
  unsent : ∀ c, (∀ id, s.calling c ≠ .saved id .sent) → places s out back c = 0
  populated : ∀ id, s.reading = .populated id → ∃ c, s.pendingCalls_.lookup id = some c
  empty : ∀ c, handling s ≠ some c → s.runs c = 0 → s.response c = []
  filled : ∀ c, handling s = some c ∨ 0 < s.runs c → (s.response c).map Prod.snd = [answer c]

variable {answer : κ → List UInt8} {s t : PendingCallCache.State κ (List UInt8)}
  {out back : List (Parcel κ)}

theorem calls_init (answer : κ → List UInt8) :
    Calls answer PendingCallCache.init ([] : List (Parcel κ)) [] where
  linked := PendingCallCache.init_linked
  kept := PendingCallCache.init_kept
  asks id c h := by cases h
  answers id c h := by cases h
  sent c id h := by cases h
  unsent c _ := rfl
  populated id h := by cases h
  empty c _ _ := rfl
  filled c h := by
    rcases h with h | h
    · cases h
    · exact absurd h (Nat.lt_irrefl 0)

/-- What is under way may be reordered by nothing but what counts for no call. -/
theorem Calls.of_counts (h : Calls answer s out back) {out' back' : List (Parcel κ)}
    (fewer : ∀ id c, .invocation id c ∈ out' → .invocation id c ∈ out)
    (same : ∀ id c, .response id c ∈ back' → s.calling c = .saved id .sent)
    (counts : ∀ c, out'.countP (Parcel.asks c) + back'.countP (Parcel.answers c) =
      out.countP (Parcel.asks c) + back.countP (Parcel.answers c)) : Calls answer s out' back' := by
  have kept (c : κ) : places s out' back' c = places s out back c := by
    rw [places, places, counts c]
  refine ⟨h.linked, h.kept, fun id c hc => h.asks id c (fewer id c hc), same, fun c id hc => ?_,
    fun c hc => ?_, h.populated, h.empty, h.filled⟩
  · rw [kept]
    exact h.sent c id hc
  · rw [kept]
    exact h.unsent c hc

/-- The call is under way on an answer instead of on its question. -/
theorem Calls.dispatched {id : UInt32} {c : κ} (h : Calls answer s (.invocation id c :: out) back) :
    Calls answer s out (back ++ [.response id c]) := by
  apply h.of_counts
  · intro i d hd
    exact List.mem_cons_of_mem _ hd
  · intro i d hd
    rcases List.mem_append.mp hd with before | new
    · exact h.answers i d before
    · cases List.mem_singleton.mp new
      exact h.asks id c List.mem_cons_self
  · intro d
    have moved : Parcel.answers d (.response id c) = Parcel.asks d (.invocation id c) := rfl
    rw [List.countP_append, List.countP_singleton, List.countP_cons, moved]
    omega

/-- Something goes out that is no call. -/
theorem Calls.append_out {p : Parcel κ} (h : Calls answer s out back)
    (other : ∀ c, p.asks c = false) : Calls answer s (out ++ [p]) back := by
  apply h.of_counts
  · intro id c hc
    rcases List.mem_append.mp hc with before | new
    · exact before
    · have asked := other c
      rw [← List.mem_singleton.mp new, Parcel.asks, decide_eq_false_iff_not] at asked
      exact absurd rfl asked
  · exact h.answers
  · intro c
    rw [List.countP_append, List.countP_singleton, other c, if_neg Bool.false_ne_true, Nat.add_zero]

/-- Something comes in that is no response. -/
theorem Calls.append_back {p : Parcel κ} (h : Calls answer s out back)
    (other : ∀ c, p.answers c = false) : Calls answer s out (back ++ [p]) := by
  apply h.of_counts
  · intro id c hc
    exact hc
  · intro id c hc
    rcases List.mem_append.mp hc with before | new
    · exact h.answers id c before
    · have answered := other c
      rw [← List.mem_singleton.mp new, Parcel.answers, decide_eq_false_iff_not] at answered
      exact absurd rfl answered
  · intro c
    rw [List.countP_append, List.countP_singleton, other c, if_neg Bool.false_ne_true, Nat.add_zero]

/-- What comes back first is no response. -/
theorem Calls.skip {p : Parcel κ} (h : Calls answer s out (p :: back))
    (other : ∀ c, p.answers c = false) : Calls answer s out back := by
  apply h.of_counts
  · intro id c hc
    exact hc
  · intro id c hc
    exact h.answers id c (List.mem_cons_of_mem _ hc)
  · intro c
    simp [other c]

/-- What goes out first is no call. -/
theorem Calls.passed {p : Parcel κ} (h : Calls answer s (p :: out) back)
    (other : ∀ c, p.asks c = false) : Calls answer s out back := by
  apply h.of_counts
  · intro id c hc
    exact List.mem_cons_of_mem _ hc
  · exact h.answers
  · intro c
    simp [other c]

/-- A step after which every call is in the same places and has the same response. -/
theorem Calls.of_same (h : Calls answer s out back) (linked : Linked t) (kept : Kept t)
    (hand : handling t = handling s) (runs : t.runs = s.runs) (response : t.response = s.response)
    (same : ∀ c id, t.calling c = .saved id .sent ↔ s.calling c = .saved id .sent)
    (populated : ∀ id, t.reading = .populated id → ∃ c, t.pendingCalls_.lookup id = some c) :
    Calls answer t out back := by
  have places_eq (c : κ) : places t out back c = places s out back c := by
    rw [places, places, hand, runs]
  refine ⟨linked, kept, fun id c hc => (same c id).mpr (h.asks id c hc),
    fun id c hc => (same c id).mpr (h.answers id c hc), fun c id hc => ?_, fun c hc => ?_, populated,
    ?_, ?_⟩
  · rw [places_eq]
    exact h.sent c id ((same c id).mp hc)
  · rw [places_eq]
    exact h.unsent c fun id hi => hc id ((same c id).mpr hi)
  · rw [hand, runs, response]
    exact h.empty
  · rw [hand, runs, response]
    exact h.filled

/-- The actions of a calling thread in front of the send. -/
def prepares : PendingCallCache.Action κ (List UInt8) → Bool
  | .readId _ | .writeId _ | .saveCompletionDetails _ => true
  | _ => false

theorem unsent_enter {c : κ} {p : Calling} (before : ∀ id, s.calling c ≠ .saved id .sent)
    (behind : ∀ id, p ≠ .saved id .sent) (d : κ) (id : UInt32) :
    (s.enter c p).calling d = .saved id .sent ↔ s.calling d = .saved id .sent := by
  by_cases same : d = c
  · subst same
    have here : (s.enter d p).calling d = p := Function.update_self ..
    rw [here]
    exact iff_of_false (behind id) (before id)
  · have there : (s.enter c p).calling d = s.calling d := Function.update_of_ne same ..
    rw [there]

theorem Calls.prepare (h : Calls answer s out back) {a : PendingCallCache.Action κ (List UInt8)}
    (front : prepares a) (fresh : FreshId s a) (hs : PendingCallCache.step s a = some t) :
    Calls answer t out back := by
  have linked := PendingCallCache.step_linked h.linked hs
  have kept := PendingCallCache.step_kept h.linked h.kept fresh hs
  cases PendingCallCache.step_cases hs with
  | readId hc =>
    exact h.of_same linked kept rfl rfl rfl
      (unsent_enter (fun id e => by rw [hc] at e; cases e) fun id e => by cases e) h.populated
  | writeId hc =>
    exact h.of_same linked kept rfl rfl rfl
      (unsent_enter (fun id e => by rw [hc] at e; cases e) fun id e => by cases e) h.populated
  | @save c id hc =>
    have free := fresh id hc
    -- the entry that the reading thread works on is there, so it is another one
    have other (i : UInt32) (hi : s.reading = .populated i) : i ≠ id := by
      rintro rfl
      obtain ⟨d, found⟩ := h.populated i hi
      rw [free] at found
      cases found
    refine h.of_same linked kept ?_ rfl rfl
      (unsent_enter (fun i e => by rw [hc] at e; cases e) fun i e => by cases e) fun i hi => ?_
    · rw [handling, handling]
      change (match s.reading with
        | .idle => none
        | .populated i => (s.pendingCalls_.insert id c).lookup i
        | .completing _ completion => completion) = _
      cases hr : s.reading with
      | idle => rfl
      | populated i => exact AList.lookup_insert_ne (other i hr)
      | completing i completion => rfl
    · obtain ⟨d, found⟩ := h.populated i hi
      exact ⟨d, (AList.lookup_insert_ne (other i hi)).trans found⟩
  | send => cases front
  | sendRaises => cases front
  | force => cases front
  | populate => cases front
  | unknown => cases front
  | take => cases front
  | complete => cases front

/-- The invocation goes out. -/
theorem Calls.send (h : Calls answer s out back) {c : κ} {id : UInt32}
    (hc : s.calling c = .saved id .sending) (hs : PendingCallCache.step s (.send c) = some t) :
    Calls answer t (out ++ [.invocation id c]) back ∧ t.calling c = .saved id .sent ∧
      ∀ d, d ≠ c → t.calling d = s.calling d := by
  have linked := PendingCallCache.step_linked h.linked hs
  have kept := PendingCallCache.step_kept h.linked h.kept (by trivial) hs
  have entered : t = s.enter c (.saved id .sent) := by
    simp only [PendingCallCache.step, hc] at hs
    exact (Option.some.inj hs).symm
  have here : t.calling c = .saved id .sent := by rw [entered]; exact Function.update_self ..
  have others (d : κ) (hd : d ≠ c) : t.calling d = s.calling d := by
    rw [entered]
    exact Function.update_of_ne hd ..
  have none : places s out back c = 0 := h.unsent c fun i hi => by rw [hc] at hi; cases hi
  have placed (d : κ) : places t (out ++ [.invocation id c]) back d =
      places s out back d + if c = d then 1 else 0 := by
    rw [entered]
    change List.countP _ _ + _ + (if handling s = some d then 1 else 0) + s.runs d = _
    rw [List.countP_append, List.countP_singleton, places]
    simp only [Parcel.asks, decide_eq_true_eq]
    omega
  have unsaid (d : κ) (hd : ¬ c = d) : places t (out ++ [.invocation id c]) back d =
      places s out back d := by rw [placed, if_neg hd, Nat.add_zero]
  refine ⟨⟨linked, kept, fun i d hd => ?_, fun i d hd => ?_, fun d i hd => ?_, fun d hd => ?_, ?_, ?_, ?_⟩,
    here, others⟩
  · rcases List.mem_append.mp hd with before | new
    · by_cases same : d = c
      · have was := h.asks i d before
        rw [same, hc] at was
        cases was
      · rw [others d same]
        exact h.asks i d before
    · cases List.mem_singleton.mp new
      exact here
  · by_cases same : d = c
    · have was := h.answers i d hd
      rw [same, hc] at was
      cases was
    · rw [others d same]
      exact h.answers i d hd
  · by_cases same : d = c
    · rw [placed, same, none, if_pos rfl]
    · rw [unsaid d (Ne.symm same)]
      exact h.sent d i (others d same ▸ hd)
  · by_cases same : d = c
    · exact absurd here (same ▸ hd id)
    · rw [unsaid d (Ne.symm same)]
      exact h.unsent d fun i hi => hd i ((others d same).trans hi)
  · rw [entered]
    exact h.populated
  · rw [entered]
    exact h.empty
  · rw [entered]
    exact h.filled

/-- The response of a call finds the call, and it is what the other end has answered. -/
theorem Calls.populate {id : UInt32} {c : κ} (h : Calls answer s out (.response id c :: back))
    (idle : s.reading = .idle) :
    s.pendingCalls_.lookup id = some c ∧
    ∃ t, PendingCallCache.step s (.populateMessageForResult id (answer c)) = some t ∧
      t.calling = s.calling ∧ Calls answer t out back := by
  have sent := h.answers id c List.mem_cons_self
  have one := h.sent c id sent
  have nothing : handling s = none := by rw [handling, idle]
  rw [places, List.countP_cons_of_pos (by simp [Parcel.answers]), nothing] at one
  have unrun : s.runs c = 0 := by omega
  have found : s.pendingCalls_.lookup id = some c := by
    rcases h.kept.kept c id (by rw [sent]; rfl) with ran | entry | held
    · omega
    · exact entry
    · rw [idle] at held
      cases held
  refine ⟨found, ?_⟩
  let t : PendingCallCache.State κ (List UInt8) := { s.arrive id with
    reading := .populated id
    response := Function.update s.response c (s.response c ++ [(id, answer c)]) }
  have hs : PendingCallCache.step s (.populateMessageForResult id (answer c)) = some t := by
    rw [PendingCallCache.step, idle, found]
  have hand : handling t = some c := found
  have own : t.response c = s.response c ++ [(id, answer c)] := Function.update_self ..
  have others (d : κ) (hd : d ≠ c) : t.response d = s.response d := Function.update_of_ne hd ..
  have placed (d : κ) : places t out back d = places s out (.response id c :: back) d := by
    rw [places, places, hand, nothing, List.countP_cons]
    simp only [Parcel.answers, decide_eq_true_eq, Option.some.injEq, reduceCtorEq, if_false]
    change _ + _ + _ + s.runs d = _
    omega
  refine ⟨t, hs, rfl, PendingCallCache.step_linked h.linked hs,
    PendingCallCache.step_kept h.linked h.kept (by trivial) hs, h.asks,
    fun i d hd => h.answers i d (List.mem_cons_of_mem _ hd), fun d i hd => ?_, fun d hd => ?_,
    fun i hi => ?_, fun d hd none => ?_, fun d hd => ?_⟩
  · rw [placed]
    exact h.sent d i hd
  · rw [placed]
    exact h.unsent d hd
  · cases hi
    exact ⟨c, found⟩
  · have differs : d ≠ c := fun e => hd (e ▸ hand)
    rw [others d differs]
    exact h.empty d (by rw [nothing]; exact (Option.some_ne_none d).symm) none
  · by_cases same : d = c
    · rw [same, own, h.empty c (by rw [nothing]; exact (Option.some_ne_none c).symm) unrun]
      rfl
    · rw [others d same]
      apply h.filled d
      rw [hand] at hd
      exact Or.inr (hd.resolve_left fun e => same (Option.some.inj e).symm)

theorem Calls.completeResponse (h : Calls answer s out back)
    (hs : PendingCallCache.step s .completeResponse = some t) :
    t.calling = s.calling ∧ Calls answer t out back := by
  have linked := PendingCallCache.step_linked h.linked hs
  have kept := PendingCallCache.step_kept h.linked h.kept (by trivial) hs
  cases PendingCallCache.step_cases hs with
  | take hr =>
    refine ⟨rfl, h.of_same linked kept ?_ rfl rfl (fun _ _ => Iff.rfl) fun i hi => by cases hi⟩
    rw [handling, handling, hr]

theorem Calls.complete (h : Calls answer s out back)
    (hs : PendingCallCache.step s .complete = some t) :
    t.calling = s.calling ∧ Calls answer t out back := by
  have linked := PendingCallCache.step_linked h.linked hs
  have kept := PendingCallCache.step_kept h.linked h.kept (by trivial) hs
  cases PendingCallCache.step_cases hs with
  | @complete id completion hr =>
    have held : handling s = completion := by rw [handling, hr]
    have runs (d : κ) : (s.complete completion.toList).runs d =
        (if handling s = some d then 1 else 0) + s.runs d := by
      change s.runs d + completion.toList.count d = _
      rw [held]
      cases completion with
      | none => simp
      | some c => simp [List.count_singleton, Nat.add_comm]
    have placed (d : κ) :
        places { s.complete completion.toList with reading := .idle } out back d =
          places s out back d := by
      rw [places, places]
      change _ + (if (none : Option κ) = some d then 1 else 0) +
        (s.complete completion.toList).runs d = _
      rw [runs, if_neg (Option.some_ne_none d).symm]
      omega
    refine ⟨rfl, linked, kept, h.asks, h.answers, fun d i hd => ?_, fun d hd => ?_,
      fun i hi => (by cases hi), fun d _ none => ?_, fun d hd => ?_⟩
    · rw [placed]
      exact h.sent d i hd
    · rw [placed]
      exact h.unsent d hd
    · have zero := (runs d).symm.trans none
      by_cases held : handling s = some d
      · rw [if_pos held] at zero
        omega
      · exact h.empty d held (by omega)
    · apply h.filled d
      rcases hd with hd | hd
      · cases hd
      · by_cases held : handling s = some d
        · exact Or.inl held
        · have some : 0 < (s.complete completion.toList).runs d := hd
          rw [runs, if_neg held] at some
          exact Or.inr (by omega)

end Anbox.Rpc.Session
