import Mathlib.Data.List.Basic

namespace Anbox.Framework

variable {σ α : Type*}

/-- The state a list of actions leads to; `none` when one of them is not enabled. -/
def run (step : σ → α → Option σ) : σ → List α → Option σ
  | s, [] => some s
  | s, a :: as => (step s a).bind fun t => run step t as

/-- `P` holds of every step taken: of the state before it and of its action. -/
def Along (step : σ → α → Option σ) (P : σ → α → Prop) : σ → List α → Prop
  | _, [] => True
  | s, a :: as => ∀ t, step s a = some t → P s a ∧ Along step P t as

/-- `Q` holds in every state the run passes, the first and the last included. -/
def Always (step : σ → α → Option σ) (Q : σ → Prop) : σ → List α → Prop
  | s, [] => Q s
  | s, a :: as => Q s ∧ ∀ t, step s a = some t → Always step Q t as

variable {step : σ → α → Option σ} {P R : σ → α → Prop} {Q I : σ → Prop}

theorem run_cons {s t : σ} {a : α} {as : List α} (h : run step s (a :: as) = some t) :
    ∃ u, step s a = some u ∧ run step u as = some t := by
  simpa only [run, Option.bind_eq_some_iff] using h

theorem run_append (s : σ) (as bs : List α) :
    run step s (as ++ bs) = (run step s as).bind fun t => run step t bs := by
  induction as generalizing s with
  | nil => rfl
  | cons a as ih =>
    simp only [List.cons_append, run]
    cases h : step s a with
    | none => rfl
    | some t => exact ih t

/-- What every step keeps holds at the end of every run. -/
theorem invariant_run (hstep : ∀ s a t, I s → P s a → step s a = some t → I t)
    {s t : σ} {as : List α} (hs : I s) (hp : Along step P s as) (h : run step s as = some t) :
    I t := by
  induction as generalizing s with
  | nil => exact Option.some.inj h ▸ hs
  | cons a as ih =>
    obtain ⟨u, hu, ht⟩ := run_cons h
    obtain ⟨ha, has⟩ := hp u hu
    exact ih (hstep s a u hs ha hu) has ht

theorem along_of_forall {as : List α} (h : ∀ a ∈ as, ∀ s, P s a) (s : σ) : Along step P s as := by
  induction as generalizing s with
  | nil => trivial
  | cons a as ih =>
    intro t _
    exact ⟨h a List.mem_cons_self s, ih (fun b hb => h b (List.mem_cons_of_mem a hb)) t⟩

theorem along_cons {s t : σ} {a : α} {as : List α} (ht : step s a = some t) (ha : P s a)
    (has : Along step P t as) : Along step P s (a :: as) := by
  intro u hu
  rw [ht] at hu
  exact ⟨ha, Option.some.inj hu ▸ has⟩

theorem along_of_stuck {s : σ} {a : α} {as : List α} (h : step s a = none) :
    Along step P s (a :: as) := by
  intro t ht
  rw [h] at ht
  cases ht

theorem along_cons_iff {s t : σ} {a : α} {as : List α} (h : step s a = some t) :
    Along step P s (a :: as) ↔ P s a ∧ Along step P t as := by
  constructor
  · intro along
    exact along t h
  · rintro ⟨here, later⟩
    exact along_cons h here later

instance Along.decidable [∀ s a, Decidable (P s a)] :
    (s : σ) → (as : List α) → Decidable (Along step P s as)
  | _, [] => .isTrue trivial
  | s, a :: as =>
    match h : step s a with
    | none => .isTrue (along_of_stuck h)
    | some t =>
      have : Decidable (Along step P t as) := Along.decidable t as
      decidable_of_iff (P s a ∧ Along step P t as) (along_cons_iff h).symm

/-- What a step that meets `P` meets besides, in the states of the invariant that such steps keep. -/
theorem Along.implies (hstep : ∀ s a t, I s → P s a → step s a = some t → I t)
    (h : ∀ s a t, I s → P s a → step s a = some t → R s a) {s : σ} {as : List α}
    (hp : Along step P s as) (hs : I s) : Along step R s as := by
  induction as generalizing s with
  | nil => trivial
  | cons a as ih =>
    intro t ht
    obtain ⟨ha, has⟩ := hp t ht
    exact ⟨h s a t hs ha ht, ih has (hstep s a t hs ha ht)⟩

/-- Two conditions that come to the same in the states where the invariant holds, which one of them
keeps, come to the same along every run. -/
theorem along_iff (hstep : ∀ s a t, I s → P s a → step s a = some t → I t)
    (h : ∀ s a t, I s → step s a = some t → (P s a ↔ R s a)) {s : σ} (as : List α) (hs : I s) :
    Along step P s as ↔ Along step R s as := by
  have back : ∀ s a t, I s → R s a → step s a = some t → P s a :=
    fun s a t hs ha ht => (h s a t hs ht).mpr ha
  constructor
  · intro hp
    exact hp.implies hstep (fun s a t hs ha ht => (h s a t hs ht).mp ha) hs
  · intro hr
    exact hr.implies (fun s a t hs ha ht => hstep s a t hs (back s a t hs ha ht) ht) back hs

/-- What comes to the same in every step comes to the same along every run. -/
theorem along_congr (hstep : ∀ s a t, I s → step s a = some t → I t)
    (h : ∀ s a t, I s → step s a = some t → (P s a ↔ R s a)) {s : σ} (as : List α) (hs : I s) :
    Along step P s as ↔ Along step R s as :=
  along_iff (fun s a t hs _ => hstep s a t hs) h as hs

theorem Along.mono (h : ∀ s a, P s a → R s a) {s : σ} {as : List α} (hs : Along step P s as) :
    Along step R s as :=
  Along.implies (I := fun _ => True) (fun _ _ _ _ _ _ => trivial) (fun s a _ _ ha _ => h s a ha) hs
    trivial

theorem Along.and {s : σ} {as : List α} (hp : Along step P s as) (hr : Along step R s as) :
    Along step (fun s a => P s a ∧ R s a) s as := by
  induction as generalizing s with
  | nil => trivial
  | cons a as ih =>
    intro t ht
    obtain ⟨p, ps⟩ := hp t ht
    obtain ⟨r, rs⟩ := hr t ht
    exact ⟨⟨p, r⟩, ih ps rs⟩

/-- `Along` in terms of the steps a run is cut at. -/
theorem along_iff_cut {s : σ} {as : List α} :
    Along step P s as ↔ ∀ before a after t u, as = before ++ a :: after →
      run step s before = some t → step t a = some u → P t a := by
  induction as generalizing s with
  | nil => simp [Along]
  | cons b as ih =>
    constructor
    · intro h before a after t u cut ht hu
      cases before with
      | nil =>
        obtain ⟨rfl, rfl⟩ := List.cons.inj cut
        obtain rfl := Option.some.inj ht
        exact (h u hu).1
      | cons c before =>
        obtain ⟨rfl, rfl⟩ := List.cons.inj cut
        obtain ⟨v, hv, ht⟩ := run_cons ht
        exact ih.mp (h v hv).2 before a after t u rfl ht hu
    · intro h t ht
      refine ⟨h [] b as s t rfl rfl ht, ih.mpr ?_⟩
      intro before a after v u cut hv hu
      have run : run step s (b :: before) = some v := by rw [run, ht, Option.bind_some, hv]
      exact h (b :: before) a after v u (congrArg (List.cons b) cut) run hu

theorem Along.append {s : σ} {as bs : List α} (h : Along step P s (as ++ bs)) {t : σ}
    (ht : run step s as = some t) : Along step P t bs := by
  induction as generalizing s with
  | nil => exact Option.some.inj ht ▸ h
  | cons a as ih =>
    obtain ⟨u, hu, ht⟩ := run_cons ht
    exact ih (h u hu).2 ht

theorem Along.of_append {s : σ} {as bs : List α} (h : Along step P s (as ++ bs)) :
    Along step P s as := by
  induction as generalizing s with
  | nil => trivial
  | cons a as ih => exact fun t ht => ⟨(h t ht).1, ih (h t ht).2⟩

theorem Always.head {s : σ} {as : List α} (h : Always step Q s as) : Q s := by
  cases as with
  | nil => exact h
  | cons a as => exact h.1

/-- What holds in every state says what each step finds. -/
theorem Always.along (h : ∀ s a, Q s → P s a) {s : σ} {as : List α} (hs : Always step Q s as) :
    Along step P s as := by
  induction as generalizing s with
  | nil => trivial
  | cons a as ih => exact fun t ht => ⟨h s a hs.1, ih (hs.2 t ht)⟩

theorem Always.last {s t : σ} {as : List α} (h : Always step Q s as)
    (hr : run step s as = some t) : Q t := by
  induction as generalizing s with
  | nil => exact Option.some.inj hr ▸ h
  | cons a as ih =>
    obtain ⟨u, hu, ht⟩ := run_cons hr
    exact ih (h.2 u hu) ht

/-- What every step that meets `P` keeps holds throughout a run of such steps. -/
theorem always_of_along (hstep : ∀ s a t, I s → P s a → step s a = some t → I t) {s : σ}
    {as : List α} (hs : I s) (hp : Along step P s as) : Always step I s as := by
  induction as generalizing s with
  | nil => exact hs
  | cons a as ih =>
    refine ⟨hs, fun t ht => ?_⟩
    obtain ⟨ha, has⟩ := hp t ht
    exact ih (hstep s a t hs ha ht) has

theorem Always.mono (h : ∀ s, I s → Q s) {s : σ} {as : List α} (hs : Always step I s as) :
    Always step Q s as := by
  induction as generalizing s with
  | nil => exact h s hs
  | cons a as ih => exact ⟨h s hs.1, fun t ht => ih (hs.2 t ht)⟩

/-- A step condition `P` that an invariant needs, and that a good next state gives back, is the
exact condition for `Q` to hold throughout a run that meets `R` anyway. -/
theorem always_iff_along_under (hq : ∀ s, I s → Q s)
    (hstep : ∀ s a t, I s → R s a → P s a → step s a = some t → I t)
    (hback : ∀ s a t, I s → R s a → step s a = some t → Q t → P s a)
    {s : σ} {as : List α} (hr : Along step R s as) (hs : I s) :
    Always step Q s as ↔ Along step P s as := by
  induction as generalizing s with
  | nil => exact ⟨fun _ => trivial, fun _ => hq s hs⟩
  | cons a as ih =>
    constructor
    · intro h t ht
      obtain ⟨hr, more⟩ := hr t ht
      have ha : P s a := hback s a t hs hr ht (h.2 t ht).head
      exact ⟨ha, (ih more (hstep s a t hs hr ha ht)).mp (h.2 t ht)⟩
    · intro h
      refine ⟨hq s hs, fun t ht => ?_⟩
      obtain ⟨hr, more⟩ := hr t ht
      obtain ⟨ha, has⟩ := h t ht
      exact (ih more (hstep s a t hs hr ha ht)).mpr has

/-- The exact condition for `Q` to hold throughout any run. -/
theorem always_iff_along (hq : ∀ s, I s → Q s)
    (hstep : ∀ s a t, I s → P s a → step s a = some t → I t)
    (hback : ∀ s a t, I s → step s a = some t → Q t → P s a)
    {s : σ} (as : List α) (hs : I s) : Always step Q s as ↔ Along step P s as :=
  always_iff_along_under (R := fun _ _ => True) hq (fun s a t hs _ => hstep s a t hs)
    (fun s a t hs _ => hback s a t hs) (along_of_forall (fun _ _ _ => trivial) s) hs

/-- A system whose steps are those of another, or leave it as it is, runs no other way. -/
theorem run_of_steps {τ β : Type*} {step' : τ → β → Option τ} (f : σ → τ)
    (sim : ∀ s a t, step s a = some t → f t = f s ∨ ∃ b, step' (f s) b = some (f t)) {s t : σ}
    {as : List α} (h : run step s as = some t) : ∃ bs, run step' (f s) bs = some (f t) := by
  induction as generalizing s with
  | nil => exact ⟨[], congrArg (some ∘ f) (Option.some.inj h)⟩
  | cons a as ih =>
    obtain ⟨u, hu, ht⟩ := run_cons h
    obtain ⟨bs, hbs⟩ := ih ht
    cases sim s a u hu with
    | inl same => exact ⟨bs, same ▸ hbs⟩
    | inr moved =>
      obtain ⟨b, hb⟩ := moved
      exact ⟨b :: bs, by rw [run, hb, Option.bind_some, hbs]⟩

/-- Where one system follows the steps of another, it follows all its runs. -/
theorem run_simulated {τ : Type*} {step' : τ → α → Option τ} {S : σ → τ → Prop}
    (sim : ∀ s t a s', S s t → P s a → step s a = some s' → ∃ t', step' t a = some t' ∧ S s' t')
    {s s' : σ} {t : τ} {as : List α} (hs : S s t) (hp : Along step P s as) (h : run step s as = some s') :
    ∃ t', run step' t as = some t' ∧ S s' t' := by
  induction as generalizing s t with
  | nil => exact ⟨t, rfl, Option.some.inj h ▸ hs⟩
  | cons a as ih =>
    obtain ⟨u, hu, rest⟩ := run_cons h
    obtain ⟨here, later⟩ := hp u hu
    obtain ⟨v, hv, related⟩ := sim s t a u hs here hu
    obtain ⟨t', ht, final⟩ := ih related later rest
    exact ⟨t', by rw [run, hv, Option.bind_some, ht], final⟩

/-! Operations that reply. -/

section

variable {ο ρ : Type*}

/-- The replies to operations made one after the other; `none` when one of them does not return. -/
def trace (exec : σ → ο → Option (ρ × σ)) : σ → List ο → Option (List ρ × σ)
  | s, [] => some ([], s)
  | s, o :: os => (exec s o).bind fun p => (trace exec p.2 os).map fun q => (p.1 :: q.1, q.2)

variable {exec : σ → ο → Option (ρ × σ)}

theorem trace_cons {s u : σ} {o : ο} {os : List ο} {rs : List ρ}
    (h : trace exec s (o :: os) = some (rs, u)) :
    ∃ r t rest, exec s o = some (r, t) ∧ trace exec t os = some (rest, u) ∧ rs = r :: rest := by
  simp only [trace, Option.bind_eq_some_iff, Option.map_eq_some_iff] at h
  obtain ⟨p, hp, q, hq, heq⟩ := h
  obtain ⟨rfl, rfl⟩ := Prod.mk.inj heq
  exact ⟨p.1, p.2, q.1, hp, hq, rfl⟩

theorem invariant_trace (hstep : ∀ s o r t, I s → exec s o = some (r, t) → I t) {s t : σ}
    {os : List ο} {rs : List ρ} (hs : I s) (h : trace exec s os = some (rs, t)) : I t := by
  induction os generalizing s rs with
  | nil =>
    obtain ⟨-, rfl⟩ := Prod.mk.inj (Option.some.inj h)
    exact hs
  | cons o os ih =>
    obtain ⟨r, u, rest, hu, ht, -⟩ := trace_cons h
    exact ih (hstep s o r u hs hu) ht

/-- A simulation of single operations is one of all their sequences. -/
theorem trace_map {τ ο' ρ' : Type*} {exec' : τ → ο' → Option (ρ' × τ)} (f : σ → τ) (g : ο → ο')
    (k : ρ → ρ') (hstep : ∀ s o r t, I s → exec s o = some (r, t) → I t)
    (sim : ∀ s o, I s → exec' (f s) (g o) = (exec s o).map (Prod.map k f)) {s : σ} (hs : I s)
    (os : List ο) :
    trace exec' (f s) (os.map g) = (trace exec s os).map (Prod.map (List.map k) f) := by
  induction os generalizing s with
  | nil => rfl
  | cons o os ih =>
    rw [List.map_cons, trace, trace, sim s o hs]
    cases h : exec s o with
    | none => rfl
    | some p =>
      simp only [Option.map_some, Option.bind_some, Prod.map_fst, Prod.map_snd]
      rw [ih (hstep s o p.1 p.2 hs h), Option.map_map, Option.map_map]
      rfl

end

end Anbox.Framework
