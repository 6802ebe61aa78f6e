import Anbox.Rpc.PendingCallCache

namespace Anbox.Rpc.PendingCallCache

open Anbox.Framework

variable {κ ρ : Type*}

/-- Every call completes exactly once and with its own reply: a call that has been saved has run
its closure or will be found by its reply, and has run it once that reply has been handled or the
send has failed. -/
structure Sound (s : State κ ρ) : Prop where
  once : ∀ c, s.runs c ≤ 1
  answered : ∀ c, s.arrived c → s.reading.id ≠ (s.calling c).savedId → s.runs c = 1
  raised : ∀ c id, s.calling c = .saved id .raised →
    s.runs c = 1 ∨ s.reading.completion = some c
  filled : ∀ c, ∀ r ∈ s.response c, (s.calling c).savedId = some r.1
  kept : ∀ c id, (s.calling c).savedId = some id →
    s.runs c = 1 ∨ s.pendingCalls_.lookup id = some c ∨ s.reading.completion = some c

/-- A call is saved under an id that no entry of the cache has at that moment. -/
def FreshId (s : State κ ρ) : Action κ ρ → Prop
  | .saveCompletionDetails c =>
    ∀ id, s.calling c = .numbered id → s.pendingCalls_.lookup id = none
  | _ => True

theorem freshId_iff {s : State κ ρ} {c : κ} {id : UInt32} (h : s.calling c = .numbered id) :
    FreshId s (.saveCompletionDetails c) ↔ s.pendingCalls_.lookup id = none := by
  constructor
  · intro fresh
    exact fresh id h
  · intro free next hn
    rw [h] at hn
    cases hn
    exact free

theorem freshId_of_ne {s : State κ ρ} {c : κ} (h : ∀ id, s.calling c ≠ .numbered id) :
    FreshId s (.saveCompletionDetails c) :=
  fun id hc => absurd hc (h id)

instance (s : State κ ρ) : (a : Action κ ρ) → Decidable (FreshId s a)
  | .saveCompletionDetails c =>
    match h : s.calling c with
    | .numbered _ => decidable_of_iff _ (freshId_iff h).symm
    | .idle | .counting _ | .saved _ _ => .isTrue (freshId_of_ne (h ▸ nofun))
  | .readId _ | .writeId _ | .send _ | .sendRaises _ | .forceCompletion _
  | .populateMessageForResult _ _ | .completeResponse | .complete => .isTrue trivial

variable [DecidableEq κ]

/-- A closure that has run, or that the action runs, has run once behind it. -/
theorem step_ran {s t : State κ ρ} {a : Action κ ρ} (hs : step s a = some t) (ht : Linked t)
    {c : κ} (h : s.runs c = 1 ∨ c ∈ closures s a) : t.runs c = 1 := by
  have hr := step_runs hs c
  have once := ht.once c
  rcases h with h | h
  · omega
  · have := List.count_pos_iff.mpr h
    omega

/-! While every call is saved under a free id, no save takes an entry away from another call. -/

structure Kept (s : State κ ρ) : Prop where
  kept : ∀ c id, (s.calling c).savedId = some id →
    s.runs c = 1 ∨ s.pendingCalls_.lookup id = some c ∨ s.reading.completion = some c
  answered : ∀ c, s.arrived c → (s.calling c).savedId ≠ none ∧
    (s.reading.id ≠ (s.calling c).savedId → s.runs c = 1)
  taken : ∀ id completion, s.reading = .completing id completion → ∀ c, s.arrived c →
    (s.calling c).savedId = some id → s.runs c = 1 ∨ completion = some c

omit [DecidableEq κ] in
theorem init_kept : Kept (init : State κ ρ) where
  kept c id h := by simp [init, Calling.savedId] at h
  answered c h := by simp [init] at h
  taken id completion h := by simp [init] at h

theorem Kept.enter {s : State κ ρ} (h : Kept s) {c : κ} {p : Calling}
    (same : p.savedId = (s.calling c).savedId) (n : UInt32) :
    Kept { s.enter c p with nextMessageId := n } := by
  have ids := savedId_enter s same
  refine ⟨fun d id hd => ?_, fun d hd => ?_, fun id completion hr d hd hi => ?_⟩
  · exact h.kept d id ((ids d).symm.trans hd)
  · rw [show (({ s.enter c p with nextMessageId := n } : State κ ρ).calling d).savedId =
      (s.calling d).savedId from ids d]
    exact h.answered d hd
  · exact h.taken id completion hr d hd ((ids d).symm.trans hi)

theorem Kept.save {s : State κ ρ} (h : Kept s) {c : κ} {id : UInt32}
    (hc : s.calling c = .numbered id) (free : s.pendingCalls_.lookup id = none) :
    Kept { s.enter c (.saved id .sending) with
      pendingCalls_ := s.pendingCalls_.insert id c } := by
  have fresh : ∀ d, s.arrived d → d ≠ c := by
    rintro d hd rfl
    apply (h.answered d hd).1
    rw [hc]
    rfl
  refine ⟨fun d i hd => ?_, fun d hd => ?_, fun i completion hr d hd hi => ?_⟩
  · by_cases hdc : d = c
    · subst d
      obtain rfl : id = i := by simpa [State.enter, Calling.savedId] using hd
      exact .inr (.inl (AList.lookup_insert _))
    · rcases h.kept d i (by simpa [State.enter, hdc] using hd) with e | e | e
      · exact .inl e
      · refine .inr (.inl ?_)
        have hi : i ≠ id := by
          rintro rfl
          simp [free] at e
        rwa [AList.lookup_insert_ne hi]
      · exact .inr (.inr e)
  · simpa [State.enter, fresh d hd] using h.answered d hd
  · exact h.taken i completion hr d hd (by simpa [State.enter, fresh d hd] using hi)

theorem Kept.force {s : State κ ρ} (h : Kept s) {c : κ} {id : UInt32} {t : State κ ρ}
    (hc : s.calling c = .saved id .failed)
    (ht : t = { (s.enter c (.saved id .raised)).complete (values s.pendingCalls_) with
      pendingCalls_ := ∅ })
    (ran : ∀ d, s.runs d = 1 ∨ d ∈ values s.pendingCalls_ → t.runs d = 1) : Kept t := by
  have ids (d : κ) : (t.calling d).savedId = (s.calling d).savedId := by
    rw [ht]
    exact savedId_enter s (by rw [hc]; rfl) d
  have same : t.reading = s.reading := by rw [ht]; rfl
  refine ⟨fun d i hd => ?_, fun d hd => ?_, fun i completion hr d hd hi => ?_⟩
  · rcases h.kept d i ((ids d).symm.trans hd) with e | e | e
    · exact .inl (ran d (.inl e))
    · exact .inl (ran d (.inr (mem_values.mpr ⟨i, e⟩)))
    · exact .inr (.inr (same ▸ e))
  · obtain ⟨e₁, e₂⟩ := h.answered d (by rw [ht] at hd; exact hd)
    rw [ids d, same]
    exact ⟨e₁, fun hi => ran d (.inl (e₂ hi))⟩
  · rcases h.taken i completion (same ▸ hr) d (by rw [ht] at hd; exact hd)
      ((ids d).symm.trans hi) with e | e
    · exact .inl (ran d (.inl e))
    · exact .inr e

omit [DecidableEq κ] in
theorem Kept.arrive {s : State κ ρ} (h : Kept s) {id : UInt32} (hr : s.reading = .idle)
    (hl : s.pendingCalls_.lookup id = none) : Kept (s.arrive id) := by
  refine ⟨h.kept, fun d hd => ?_, fun i completion hi => ?_⟩
  · simp only [State.arrive, Bool.or_eq_true, decide_eq_true_eq] at hd
    rcases hd with hd | hd
    · exact h.answered d hd
    · refine ⟨by simp [State.arrive, hd], fun _ => ?_⟩
      rcases h.kept d id hd with e | e | e
      · exact e
      · simp [hl] at e
      · simp [hr, Reading.completion] at e
  · simp [State.arrive, hr] at hi

theorem Kept.populate {s : State κ ρ} (h : Kept s) {id : UInt32} {c : κ} (result : ρ)
    (hr : s.reading = .idle) :
    Kept { s.arrive id with
      reading := .populated id
      response := Function.update s.response c (s.response c ++ [(id, result)]) } := by
  refine ⟨fun d i hd => ?_, fun d hd => ?_, fun i completion hi => ?_⟩
  · rcases h.kept d i hd with e | e | e
    · exact .inl e
    · exact .inr (.inl e)
    · simp [hr, Reading.completion] at e
  · simp only [State.arrive, Bool.or_eq_true, decide_eq_true_eq] at hd
    rcases hd with hd | hd
    · obtain ⟨e₁, e₂⟩ := h.answered d hd
      refine ⟨e₁, fun _ => e₂ ?_⟩
      rw [hr]
      exact Ne.symm e₁
    · exact ⟨by simp [State.arrive, hd], fun hi => absurd hd.symm hi⟩
  · simp at hi

omit [DecidableEq κ] in
theorem Kept.take {s : State κ ρ} (h : Kept s) {id : UInt32} (hr : s.reading = .populated id) :
    Kept { s with
      reading := .completing id (s.pendingCalls_.lookup id)
      pendingCalls_ := s.pendingCalls_.erase id } := by
  have found (d : κ) (i : UInt32) (hd : (s.calling d).savedId = some i) :
      s.runs d = 1 ∨ s.pendingCalls_.lookup i = some d := by
    rcases h.kept d i hd with e | e | e
    · exact .inl e
    · exact .inr e
    · simp [hr, Reading.completion] at e
  refine ⟨fun d i hd => ?_, fun d hd => ?_, fun i completion hi d hd hd' => ?_⟩
  · rcases found d i hd with e | e
    · exact .inl e
    · by_cases hi : i = id
      · subst i
        exact .inr (.inr e)
      · exact .inr (.inl (by rwa [AList.lookup_erase_ne hi]))
  · simpa [hr, Reading.id] using h.answered d hd
  · obtain ⟨rfl, rfl⟩ : id = i ∧ s.pendingCalls_.lookup id = completion := by simpa using hi
    exact found d id hd'

theorem Kept.complete {s : State κ ρ} (h : Kept s) {id : UInt32} {completion : Option κ}
    {t : State κ ρ} (hr : s.reading = .completing id completion)
    (ht : t = { s.complete completion.toList with reading := .idle })
    (ran : ∀ d, s.runs d = 1 ∨ d ∈ completion.toList → t.runs d = 1) : Kept t := by
  have calling : t.calling = s.calling := by rw [ht]; rfl
  refine ⟨fun d i hd => ?_, fun d hd => ?_, fun i completion' hi => ?_⟩
  · rcases h.kept d i (by rwa [calling] at hd) with e | e | e
    · exact .inl (ran d (.inl e))
    · exact .inr (.inl (by rw [ht]; exact e))
    · have e : completion = some d := by simpa [hr, Reading.completion] using e
      exact .inl (ran d (.inr (by simp [e])))
  · obtain ⟨e₁, e₂⟩ := h.answered d (by rw [ht] at hd; exact hd)
    rw [calling]
    refine ⟨e₁, fun _ => ?_⟩
    by_cases hi : (s.calling d).savedId = some id
    · rcases h.taken id completion hr d (by rw [ht] at hd; exact hd) hi with e | e
      · exact ran d (.inl e)
      · exact ran d (.inr (by simp [e]))
    · refine ran d (.inl (e₂ ?_))
      rw [hr]
      exact Ne.symm hi
  · simp [ht] at hi

theorem step_kept {s t : State κ ρ} {a : Action κ ρ} (hl : Linked s) (h : Kept s)
    (ha : FreshId s a) (hs : step s a = some t) : Kept t := by
  have ran (c : κ) : s.runs c = 1 ∨ c ∈ closures s a → t.runs c = 1 :=
    step_ran hs (step_linked hl hs)
  cases step_cases hs with
  | readId hc => exact h.enter (by rw [hc]; rfl) s.nextMessageId
  | writeId hc => exact h.enter (by rw [hc]; rfl) _
  | save hc => exact h.save hc (ha _ hc)
  | send hc => exact h.enter (by rw [hc]; rfl) s.nextMessageId
  | sendRaises hc => exact h.enter (by rw [hc]; rfl) s.nextMessageId
  | force hc => exact h.force hc rfl ran
  | populate hr hn => exact h.populate _ hr
  | unknown hr hn => exact h.arrive hr hn
  | take hr => exact h.take hr
  | complete hr =>
    apply h.complete hr rfl
    intro d hd
    apply ran d
    simpa [closures, hr, Reading.completion] using hd

omit [DecidableEq κ] in
theorem Linked.sound {s : State κ ρ} (hl : Linked s) (h : Kept s) : Sound s where
  once := hl.once
  answered c hc := (h.answered c hc).2
  raised c id hc := by
    rcases h.kept c id (by rw [hc]; rfl) with e | e | e
    · exact .inl e
    · exact absurd hc (hl.entry id c e).2.1
    · exact .inr e
  filled := hl.filled
  kept := h.kept

/-- A save over an entry drops the call the entry was for. -/
theorem Linked.fresh_of_kept {s t : State κ ρ} {a : Action κ ρ} (h : Linked s)
    (hs : step s a = some t) (ht : Sound t) : FreshId s a := by
  cases a with
  | saveCompletionDetails c =>
    intro id hc
    obtain rfl : _ = t := by simpa [step, hc] using hs
    by_contra hne
    obtain ⟨d, hd⟩ := Option.ne_none_iff_exists'.mp hne
    obtain ⟨e₁, -, e₃, e₄⟩ := h.entry id d hd
    have hdc : d ≠ c := by
      rintro rfl
      simp [hc, Calling.savedId] at e₁
    rcases ht.kept d id (by simpa [State.enter, hdc] using e₁) with e | e | e
    · exact absurd (e₃.symm.trans e) (by decide)
    · simp [hdc.symm] at e
    · exact e₄ e
  | _ => trivial

/-- Over any number of calls and any interleaving of their threads with the replies, calls
complete exactly once and with their own reply precisely when each is saved under a free id. -/
theorem calls_sound_iff (as : List (Action κ ρ)) :
    Always step Sound (init : State κ ρ) as ↔ Along step FreshId init as := by
  apply always_iff_along (I := fun s => Linked s ∧ Kept s)
  · intro s h
    exact h.1.sound h.2
  · intro s a t h ha hs
    exact ⟨step_linked h.1 hs, step_kept h.1 h.2 ha hs⟩
  · intro s a t h hs ht
    exact h.1.fresh_of_kept hs ht
  · exact ⟨init_linked, init_kept⟩

/-- Two threads read the counter before either writes it back: both calls get the id 0. -/
def counterRace : List (Action Nat Unit) :=
  [.readId 0, .readId 1, .writeId 0, .writeId 1, .saveCompletionDetails 0,
    .saveCompletionDetails 1]

/-- The second save takes the entry of the first call, whose closure nothing will run. -/
theorem counter_race_drops_call :
    ∃ t, run step init counterRace = some t ∧ t.calling 0 = .saved 0 .sending ∧ t.runs 0 = 0 ∧
      (∀ id, t.pendingCalls_.lookup id ≠ some 0) ∧ t.reading = .idle ∧ ¬ Sound t := by
  have gone : ∀ id : UInt32, ((∅ : AList fun _ : UInt32 => Nat).insert 0 0 |>.insert 0 1).lookup
      id ≠ some 0 := by
    intro id
    by_cases hi : id = 0
    · subst id
      rw [AList.lookup_insert]
      decide
    · rw [AList.lookup_insert_ne hi, AList.lookup_insert_ne hi, AList.lookup_empty]
      decide
  refine ⟨_, rfl, rfl, rfl, gone, rfl, fun h => ?_⟩
  rcases h.kept 0 0 rfl with e | e | e
  · exact absurd e (by decide)
  · exact gone 0 e
  · exact absurd e (by decide)

/-! Without any race the counter comes back to an id that is still in use. -/

/-- Calls take their ids one after the other. -/
def takeIds (cs : List κ) : List (Action κ ρ) := cs.flatMap fun c => [.readId c, .writeId c]

/-- The calls have gone through `nextId`, and nothing else has changed. -/
structure Taken (s : State κ ρ) (cs : List κ) (t : State κ ρ) : Prop where
  next : t.nextMessageId = s.nextMessageId + UInt32.ofNat cs.length
  others : ∀ d, d ∉ cs → t.calling d = s.calling d
  cache : t.pendingCalls_ = s.pendingCalls_
  reading : t.reading = s.reading
  runs : t.runs = s.runs

theorem run_takeIds {s : State κ ρ} {cs : List κ} (nodup : cs.Nodup)
    (idle : ∀ c ∈ cs, s.calling c = .idle) :
    ∃ t, run step s (takeIds cs) = some t ∧ Taken s cs t := by
  induction cs generalizing s with
  | nil => exact ⟨s, rfl, by simp, fun _ _ => rfl, rfl, rfl, rfl⟩
  | cons c cs ih =>
    obtain ⟨fresh, nodup⟩ := List.nodup_cons.mp nodup
    let r := s.enter c (.counting s.nextMessageId)
    let u : State κ ρ := { r.enter c (.numbered s.nextMessageId) with
      nextMessageId := s.nextMessageId + 1 }
    have hr : step s (.readId c) = some r := if_pos (idle c List.mem_cons_self)
    have hu : step r (.writeId c) = some u := by simp [step, r, u, State.enter]
    have same (d : κ) (hd : d ≠ c) : u.calling d = s.calling d := by
      simp [u, r, State.enter, hd]
    have rest : ∀ d ∈ cs, u.calling d = .idle := by
      intro d hd
      have hdc : d ≠ c := by
        intro e
        exact fresh (e ▸ hd)
      rw [same d hdc]
      exact idle d (List.mem_cons_of_mem c hd)
    obtain ⟨t, ht, h⟩ := ih nodup rest
    refine ⟨t, ?_, ?_, fun d hd => ?_, h.cache, h.reading, h.runs⟩
    · show (step s (.readId c)).bind (fun r => run step r (.writeId c :: takeIds cs)) = some t
      rw [hr]
      show (step r (.writeId c)).bind (fun u => run step u (takeIds cs)) = some t
      rw [hu]
      exact ht
    · rw [h.next, List.length_cons, Nat.add_comm cs.length 1, UInt32.ofNat_add]
      exact UInt32.add_assoc _ _ _
    · obtain ⟨hdc, hd⟩ := List.ne_and_not_mem_of_not_mem_cons hd
      rw [h.others d hd, same d hdc]

/-- A call that is saved under the id of an outstanding one drops it. -/
theorem Linked.unsound_of_taken {s t : State κ ρ} (h : Linked s) {c d : κ} {id : UInt32}
    (hc : s.calling c = .numbered id) (hd : s.pendingCalls_.lookup id = some d)
    (hs : step s (.saveCompletionDetails c) = some t) : ¬ Sound t := by
  intro sound
  have free := h.fresh_of_kept hs sound id hc
  rw [hd] at free
  cases free

/-- Call 0 is left outstanding, `n` calls of other channels take their ids, and the next call here
gets the id 0 again. -/
theorem outstanding_id_reused {n : Nat} (hn : UInt32.ofNat (n + 1) = 0) :
    ∃ (as : List (Action Nat ρ)) (s : State Nat ρ), run step init as = some s ∧
      s.calling 0 = .saved 0 .sent ∧ s.runs 0 = 0 ∧
      ∀ t, step s (.saveCompletionDetails (n + 1)) = some t → ¬ Sound t := by
  let front : List (Action Nat ρ) :=
    [.readId 0, .writeId 0, .saveCompletionDetails 0, .send 0]
  have start : ∃ s : State Nat ρ, run step init front = some s ∧ s.nextMessageId = 1 ∧
      (∀ c, c ≠ 0 → s.calling c = .idle) ∧ s.calling 0 = .saved 0 .sent ∧ s.runs 0 = 0 ∧
      s.pendingCalls_.lookup 0 = some 0 := by
    refine ⟨_, rfl, rfl, fun c hc => ?_, rfl, rfl, rfl⟩
    simp [State.enter, init, hc]
  obtain ⟨s₁, h₁, next₁, idle₁, sent₁, runs₁, cache₁⟩ := start
  have others : ∀ c ∈ List.range' 1 n, s₁.calling c = .idle := by
    intro c hc
    apply idle₁
    have := List.mem_range'_1.mp hc
    omega
  obtain ⟨s₂, h₂, taken⟩ := run_takeIds List.nodup_range' others
  have zero : s₂.nextMessageId = 0 := by
    rw [taken.next, next₁, List.length_range', ← hn, Nat.add_comm n 1, UInt32.ofNat_add]
    rfl
  have last : s₂.calling (n + 1) = .idle := by
    rw [taken.others (n + 1) (by simp [List.mem_range'_1]; omega)]
    exact idle₁ (n + 1) (Nat.succ_ne_zero n)
  have first : s₂.calling 0 = .saved 0 .sent := by
    rw [taken.others 0 (by simp [List.mem_range'_1]), sent₁]
  let s₃ := s₂.enter (n + 1) (.counting s₂.nextMessageId)
  let s : State Nat ρ := { s₃.enter (n + 1) (.numbered s₂.nextMessageId) with
    nextMessageId := s₂.nextMessageId + 1 }
  have read : step s₂ (.readId (n + 1)) = some s₃ := if_pos last
  have write : step s₃ (.writeId (n + 1)) = some s := by simp [step, s₃, s, State.enter]
  have whole : run step init (front ++ (takeIds (List.range' 1 n) ++
      [.readId (n + 1), .writeId (n + 1)])) = some s := by
    rw [run_append, h₁, Option.bind_some, run_append, h₂, Option.bind_some]
    simp only [run, read, write, Option.bind_some]
  refine ⟨_, s, whole, ?_, ?_, fun t ht => ?_⟩
  · simpa [s, s₃, State.enter] using first
  · show s₂.runs 0 = 0
    rw [taken.runs, runs₁]
  · have number : s.calling (n + 1) = .numbered 0 := by simp [s, State.enter, zero]
    have entry : s.pendingCalls_.lookup 0 = some 0 := by
      show s₂.pendingCalls_.lookup 0 = some 0
      rw [taken.cache, cache₁]
    exact (run_linked whole).unsound_of_taken number entry ht

example : UInt32.ofNat (2^32 - 1 + 1) = 0 := rfl

end Anbox.Rpc.PendingCallCache
