import Anbox.Framework.Run
import Anbox.Graphics.Renderer
import Anbox.Graphics.WindowSurface

namespace Anbox.Graphics.BoundContexts

open Anbox.Framework
open Renderer (HandleType)
open WindowSurface (BindType Contexts)

variable (τ κ ω EGLSurface : Type*)

/-- The render contexts and window surfaces under their handles. Each surface has a pbuffer of its
own. -/
structure Objects where
  mContexts : HandleType → Option κ
  mWindows : HandleType → Option ω
  isGL2 : κ → Bool
  getEGLSurface : ω → EGLSurface
  apart : Function.Injective getEGLSurface

/-- The decoders stand with the context whose data they have. -/
structure RenderThreadInfo where
  currContext : Option κ
  currDrawSurf : Option ω
  currReadSurf : Option ω
  mGlDec : Option κ
  mGl2Dec : Option κ
  deriving DecidableEq

/-- Of each render thread its `RenderThreadInfo`, and of each window surface its contexts. -/
structure State where
  threads : τ → RenderThreadInfo κ ω
  windows : ω → Contexts κ

/-- A call of a thread; `made` says that `eglMakeCurrent` succeeds. -/
structure Call where
  thread : τ
  pContext : HandleType
  pDrawSurface : HandleType
  pReadSurface : HandleType
  made : Bool

/-- What the handles of a call stand for. -/
structure Target where
  ctx : Option κ
  draw : Option ω
  read : Option ω
  deriving DecidableEq

variable {τ κ ω EGLSurface}

def init : State τ κ ω :=
  { threads := fun _ => ⟨none, none, none, none, none⟩, windows := fun _ => ⟨none, none⟩ }

/-- `none` for a bad handle. -/
def target (r : Objects κ ω EGLSurface) (c : Call τ) : Option (Target κ ω) :=
  if c.pContext ≠ 0 ∨ c.pDrawSurface ≠ 0 ∨ c.pReadSurface ≠ 0 then
    match r.mContexts c.pContext, r.mWindows c.pDrawSurface with
    | some ctx, some draw =>
      if c.pReadSurface ≠ c.pDrawSurface then
        (r.mWindows c.pReadSurface).map fun read => ⟨some ctx, some draw, some read⟩
      else some ⟨some ctx, some draw, some draw⟩
    | _, _ => none
  else some ⟨none, none, none⟩

/-- The thread's decoders get the data of its context. -/
def RenderThreadInfo.current (r : Objects κ ω EGLSurface) (tinfo : RenderThreadInfo κ ω)
    (b : Target κ ω) : RenderThreadInfo κ ω :=
  let tinfo := { tinfo with currContext := b.ctx, currDrawSurf := b.draw, currReadSurf := b.read }
  match b.ctx with
  | none => { tinfo with mGlDec := none, mGl2Dec := none }
  | some ctx =>
    if r.isGL2 ctx then { tinfo with mGl2Dec := some ctx } else { tinfo with mGlDec := some ctx }

variable [DecidableEq τ] [DecidableEq ω]

def bindSurface (windows : ω → Contexts κ) (w : ω) (pCtx : Option κ) (pBindType : BindType) :
    ω → Contexts κ := Function.update windows w ((windows w).bind pCtx pBindType)

def bindSurfaces (windows : ω → Contexts κ) (bindDraw bindRead : Option ω) (ctx : Option κ) :
    ω → Contexts κ :=
  match bindDraw, bindRead with
  | some draw, some read =>
    if draw ≠ read then bindSurface (bindSurface windows draw ctx .BIND_DRAW) read ctx .BIND_READ
    else bindSurface windows draw ctx .BIND_READDRAW
  | _, _ => windows

def bindContext (r : Objects κ ω EGLSurface) (s : State τ κ ω) (c : Call τ) : Bool × State τ κ ω :=
  match target r c with
  | none => (false, s)
  | some b =>
    if c.made then
      let tinfo := s.threads c.thread
      let windows :=
        if b.draw.isNone ∧ b.read.isNone then
          bindSurfaces s.windows tinfo.currDrawSurf tinfo.currReadSurf b.ctx
        else bindSurfaces s.windows b.draw b.read b.ctx
      (true, { threads := Function.update s.threads c.thread (tinfo.current r b), windows })
    else (false, s)

def step (r : Objects κ ω EGLSurface) (s : State τ κ ω) (c : Call τ) : Option (State τ κ ω) :=
  some (bindContext r s c).2

/-! A surface may be drawn to or read from. -/

inductive Role where
  | draw
  | read
  deriving DecidableEq

def RenderThreadInfo.surface (tinfo : RenderThreadInfo κ ω) : Role → Option ω
  | .draw => tinfo.currDrawSurf
  | .read => tinfo.currReadSurf

def Target.surface (b : Target κ ω) : Role → Option ω
  | .draw => b.draw
  | .read => b.read

def held (w : Contexts κ) : Role → Option κ
  | .draw => w.mDrawContext
  | .read => w.mReadContext

/-- A window surface holds exactly the context that some thread has current with it. -/
def Bound (s : State τ κ ω) : Prop := ∀ role w ctx, held (s.windows w) role = some ctx ↔
  ∃ t, (s.threads t).surface role = some w ∧ (s.threads t).currContext = some ctx

/-- EGL does not make a surface current that is current in another thread. -/
def Exclusive (r : Objects κ ω EGLSurface) (s : State τ κ ω) (c : Call τ) : Prop :=
  c.made = true → ∀ b, target r c = some b → ∀ role w, b.surface role = some w →
    ∀ t ≠ c.thread, ∀ role' w', (s.threads t).surface role' = some w' →
      r.getEGLSurface w' ≠ r.getEGLSurface w

/-- A context that is made current leaves the surfaces of the thread where they are, if it has any. -/
def Stays (r : Objects κ ω EGLSurface) (s : State τ κ ω) (c : Call τ) : Prop :=
  c.made = true → ∀ b, target r c = some b → b.ctx ≠ none → ∀ role,
    (s.threads c.thread).surface role = none ∨ (s.threads c.thread).surface role = b.surface role

/-- A thread has all of a context and two surfaces or nothing, and no other has its surfaces. -/
structure Regular (s : State τ κ ω) : Prop where
  whole : ∀ t role, (s.threads t).surface role = none ↔ (s.threads t).currContext = none
  alone : ∀ t u role w, (s.threads t).surface role = some w → (s.threads u).surface role = some w → t = u

omit [DecidableEq τ] [DecidableEq ω] in
theorem target_cases {r : Objects κ ω EGLSurface} {c : Call τ} {b : Target κ ω}
    (h : target r c = some b) :
    b = ⟨none, none, none⟩ ∨ ∃ ctx draw read, b = ⟨some ctx, some draw, some read⟩ := by
  unfold target at h
  split at h
  · split at h
    · rename_i ctx draw _ _
      split at h
      · obtain ⟨read, -, rfl⟩ := Option.map_eq_some_iff.mp h
        exact .inr ⟨ctx, draw, read, rfl⟩
      · exact .inr ⟨ctx, draw, draw, (Option.some.inj h).symm⟩
    · cases h
  · exact .inl (Option.some.inj h).symm

omit [DecidableEq τ] [DecidableEq ω] in
@[simp] theorem current_surface (r : Objects κ ω EGLSurface) (tinfo : RenderThreadInfo κ ω)
    (b : Target κ ω) (role : Role) : (tinfo.current r b).surface role = b.surface role := by
  unfold RenderThreadInfo.current
  split
  · cases role <;> rfl
  · split_ifs
    · cases role <;> rfl
    · cases role <;> rfl

omit [DecidableEq τ] [DecidableEq ω] in
@[simp] theorem current_context (r : Objects κ ω EGLSurface) (tinfo : RenderThreadInfo κ ω)
    (b : Target κ ω) : (tinfo.current r b).currContext = b.ctx := by
  unfold RenderThreadInfo.current
  split
  · rfl
  · split_ifs
    · rfl
    · rfl

omit [DecidableEq τ] in
theorem bindSurface_self (windows : ω → Contexts κ) (w : ω) (ctx : Option κ) (type : BindType) :
    bindSurface windows w ctx type w = (windows w).bind ctx type := Function.update_self ..

omit [DecidableEq τ] in
theorem bindSurface_of_ne {v w : ω} (h : v ≠ w) (windows : ω → Contexts κ) (ctx : Option κ)
    (type : BindType) : bindSurface windows w ctx type v = windows v := Function.update_of_ne h ..

omit [DecidableEq τ] in
/-- Each surface gets the context for its role, and no other one changes. -/
theorem bindSurfaces_held (windows : ω → Contexts κ) (b : Target κ ω) {draw read : ω}
    (hd : b.draw = some draw) (hr : b.read = some read) (ctx : Option κ) (role : Role) (w : ω) :
    held (bindSurfaces windows b.draw b.read ctx w) role =
      if b.surface role = some w then ctx else held (windows w) role := by
  unfold bindSurfaces Target.surface
  rw [hd, hr]
  dsimp only
  by_cases same : draw = read
  · subst same
    rw [if_neg (not_not.mpr rfl)]
    by_cases here : draw = w
    · subst here
      rw [bindSurface_self]
      cases role <;> exact (if_pos rfl).symm
    · rw [bindSurface_of_ne (Ne.symm here)]
      cases role <;> exact (if_neg (mt Option.some.inj here)).symm
  · rw [if_pos same]
    by_cases reads : read = w
    · subst reads
      rw [bindSurface_self, bindSurface_of_ne (Ne.symm same)]
      cases role with
      | draw => exact (if_neg (mt Option.some.inj same)).symm
      | read => exact (if_pos rfl).symm
    · rw [bindSurface_of_ne (Ne.symm reads)]
      by_cases draws : draw = w
      · subst draws
        rw [bindSurface_self]
        cases role with
        | draw => exact (if_pos rfl).symm
        | read => exact (if_neg (mt Option.some.inj reads)).symm
      · rw [bindSurface_of_ne (Ne.symm draws)]
        cases role with
        | draw => exact (if_neg (mt Option.some.inj draws)).symm
        | read => exact (if_neg (mt Option.some.inj reads)).symm

/-- What a call that succeeds does. -/
structure Rebound (r : Objects κ ω EGLSurface) (s t : State τ κ ω) (c : Call τ) (b : Target κ ω) :
    Prop where
  made : c.made = true
  found : target r c = some b
  threads : t.threads = Function.update s.threads c.thread ((s.threads c.thread).current r b)
  windows : ∀ role w, held (t.windows w) role =
    if (if b.ctx = none then (s.threads c.thread).surface role else b.surface role) = some w then b.ctx
    else held (s.windows w) role

theorem bindContext_cases (r : Objects κ ω EGLSurface) {s : State τ κ ω} (reg : Regular s) (c : Call τ) :
    ((bindContext r s c).2 = s ∧ (c.made = true → target r c = none)) ∨
      ∃ b, Rebound r s (bindContext r s c).2 c b := by
  unfold bindContext
  cases found : target r c with
  | none => exact .inl ⟨rfl, fun _ => rfl⟩
  | some b =>
    cases made : c.made with
    | false => exact .inl ⟨rfl, nofun⟩
    | true =>
      refine .inr ⟨b, made, found, rfl, ?_⟩
      intro role w
      obtain rfl | ⟨ctx, draw, read, rfl⟩ := target_cases found
      · cases hd : (s.threads c.thread).currDrawSurf with
        | none =>
          have gone : (s.threads c.thread).surface role = none :=
            (reg.whole c.thread role).mpr ((reg.whole c.thread .draw).mp hd)
          simp [bindSurfaces, hd, gone]
        | some draw =>
          cases hr : (s.threads c.thread).currReadSurf with
          | none =>
            have gone := (reg.whole c.thread .draw).mpr ((reg.whole c.thread .read).mp hr)
            cases hd.symm.trans gone
          | some read =>
            have all := bindSurfaces_held s.windows
              ⟨none, (s.threads c.thread).currDrawSurf, (s.threads c.thread).currReadSurf⟩ hd hr none role w
            have surface : Target.surface ⟨(none : Option κ), (s.threads c.thread).currDrawSurf,
                (s.threads c.thread).currReadSurf⟩ role = (s.threads c.thread).surface role := by
              cases role <;> rfl
            rw [surface] at all
            exact all
      · exact bindSurfaces_held s.windows ⟨some ctx, some draw, some read⟩ rfl rfl (some ctx) role w

section

variable {r : Objects κ ω EGLSurface} {s t : State τ κ ω} {c : Call τ} {b : Target κ ω}

omit [DecidableEq τ] [DecidableEq ω] in
theorem surface_eq_none (h : target r c = some b) (role : Role) : b.surface role = none ↔ b.ctx = none := by
  obtain rfl | ⟨ctx, draw, read, rfl⟩ := target_cases h
  · cases role <;> exact iff_of_true rfl rfl
  · cases role <;> exact iff_of_false nofun nofun

theorem Rebound.thread (h : Rebound r s t c b) : t.threads c.thread = (s.threads c.thread).current r b := by
  rw [h.threads, Function.update_self]

theorem Rebound.other (h : Rebound r s t c b) {u : τ} (hu : u ≠ c.thread) : t.threads u = s.threads u := by
  rw [h.threads, Function.update_of_ne hu]

/-- No other thread has a surface that is made current. -/
theorem Rebound.taken (h : Rebound r s t c b) (alone : Exclusive r s c) {role : Role} {w : ω}
    (hw : b.surface role = some w) {u : τ} (hu : u ≠ c.thread) :
    (s.threads u).surface role ≠ some w := by
  intro same
  exact alone h.made b h.found role w hw u hu role w same rfl

theorem Rebound.regular (h : Rebound r s t c b) (alone : Exclusive r s c) (reg : Regular s) :
    Regular t where
  whole u role := by
    by_cases own : u = c.thread
    · subst own
      rw [h.thread, current_surface, current_context]
      exact surface_eq_none h.found role
    · rw [h.other own]
      exact reg.whole u role
  alone u v role w hu hv := by
    by_cases own : u = c.thread
    · by_cases also : v = c.thread
      · exact own.trans also.symm
      · rw [own, h.thread, current_surface] at hu
        rw [h.other also] at hv
        exact absurd hv (h.taken alone hu also)
    · rw [h.other own] at hu
      by_cases also : v = c.thread
      · rw [also, h.thread, current_surface] at hv
        exact absurd hu (h.taken alone hv own)
      · rw [h.other also] at hv
        exact reg.alone u v role w hu hv

/-- A surface that the thread neither had nor gets is current where it was. -/
theorem Rebound.elsewhere (h : Rebound r s t c b) {role : Role} {w : ω}
    (before : (s.threads c.thread).surface role ≠ some w) (after : b.surface role ≠ some w) (ctx : κ) :
    (∃ u, (t.threads u).surface role = some w ∧ (t.threads u).currContext = some ctx) ↔
      ∃ u, (s.threads u).surface role = some w ∧ (s.threads u).currContext = some ctx := by
  have each (u : τ) : (t.threads u).surface role = some w ∧ (t.threads u).currContext = some ctx ↔
      (s.threads u).surface role = some w ∧ (s.threads u).currContext = some ctx := by
    by_cases own : u = c.thread
    · subst own
      rw [h.thread, current_surface]
      exact iff_of_false (fun now => after now.1) (fun then_ => before then_.1)
    · rw [h.other own]
  exact exists_congr each

/-- The surfaces that the thread had lose their contexts. -/
theorem Rebound.bound_of_unbinds (h : Rebound r s t c b) (reg : Regular s) (bound : Bound s)
    (unbinds : b.ctx = none) : Bound t := by
  intro role w ctx
  have after : b.surface role ≠ some w := by
    rw [(surface_eq_none h.found role).mpr unbinds]
    exact nofun
  rw [h.windows, if_pos unbinds]
  split_ifs with mine
  · rw [unbinds]
    refine iff_of_false nofun ?_
    intro now
    obtain ⟨u, surface, -⟩ := now
    by_cases own : u = c.thread
    · rw [own, h.thread, current_surface] at surface
      exact after surface
    · rw [h.other own] at surface
      exact own (reg.alone u c.thread role w surface mine)
  · rw [bound role w ctx]
    exact (h.elsewhere mine after ctx).symm

/-- The surfaces that the thread gets hold its context, and it leaves none. -/
theorem Rebound.bound_of_binds (h : Rebound r s t c b) (alone : Exclusive r s c) (bound : Bound s)
    (stays : Stays r s c) (binds : b.ctx ≠ none) : Bound t := by
  intro role w ctx
  rw [h.windows, if_neg binds]
  split_ifs with mine
  · constructor
    · intro same
      refine ⟨c.thread, ?_, ?_⟩
      · rw [h.thread, current_surface, mine]
      · rw [h.thread, current_context, same]
    · intro now
      obtain ⟨u, surface, context⟩ := now
      by_cases own : u = c.thread
      · rw [own, h.thread, current_context] at context
        exact context
      · rw [h.other own] at surface
        exact absurd surface (h.taken alone mine own)
  · have before : (s.threads c.thread).surface role ≠ some w := by
      obtain gone | same := stays h.made b h.found binds role
      · rw [gone]
        exact nofun
      · rw [same]
        exact mine
    rw [bound role w ctx]
    exact (h.elsewhere before mine ctx).symm

theorem Rebound.bound (h : Rebound r s t c b) (alone : Exclusive r s c) (reg : Regular s)
    (bound : Bound s) (stays : Stays r s c) : Bound t := by
  obtain unbinds | binds := eq_or_ne b.ctx none
  · exact h.bound_of_unbinds reg bound unbinds
  · exact h.bound_of_binds alone bound stays binds

/-- A surface that is left holds its context still. -/
theorem Rebound.stays (h : Rebound r s t c b) (reg : Regular s) (before : Bound s) (after : Bound t) :
    Stays r s c := by
  intro _ b' found binds role
  obtain rfl := Option.some.inj (h.found.symm.trans found)
  cases surface : (s.threads c.thread).surface role with
  | none => exact .inl rfl
  | some w =>
    refine .inr ?_
    by_contra left
    cases context : (s.threads c.thread).currContext with
    | none => cases surface.symm.trans ((reg.whole c.thread role).mpr context)
    | some ctx =>
      have old : held (s.windows w) role = some ctx := (before role w ctx).mpr ⟨_, surface, context⟩
      have kept : held (t.windows w) role = some ctx := by
        rw [h.windows, if_neg binds, if_neg (Ne.symm left), old]
      obtain ⟨u, now, -⟩ := (after role w ctx).mp kept
      by_cases own : u = c.thread
      · rw [own, h.thread, current_surface] at now
        exact left now.symm
      · rw [h.other own] at now
        exact own (reg.alone u c.thread role w now surface)

end

omit [DecidableEq τ] [DecidableEq ω] in
theorem bound_init : Bound (init : State τ κ ω) := by
  intro role w ctx
  have nowhere : ¬ ∃ t, ((init : State τ κ ω).threads t).surface role = some w ∧
      ((init : State τ κ ω).threads t).currContext = some ctx := by
    intro now
    obtain ⟨t, -, context⟩ := now
    cases context
  cases role <;> exact iff_of_false nofun nowhere

omit [DecidableEq τ] [DecidableEq ω] in
theorem regular_init : Regular (init : State τ κ ω) where
  whole t role := by cases role <;> exact iff_of_true rfl rfl
  alone t u role w h := by cases role <;> cases h

theorem bindContext_refused {r : Objects κ ω EGLSurface} {s : State τ κ ω} {c : Call τ}
    (h : (bindContext r s c).1 = false) : (bindContext r s c).2 = s := by
  revert h
  unfold bindContext
  cases target r c with
  | none => exact fun _ => rfl
  | some b =>
    cases c.made with
    | false => exact fun _ => rfl
    | true => exact nofun

/-- A call that is refused changes nothing, and the surfaces hold the contexts that are current with
them as long as no thread with a current context goes on to another surface. -/
theorem bindContext_run_iff (r : Objects κ ω EGLSurface) (calls : List (Call τ))
    (alone : Along (step r) (Exclusive r) (init : State τ κ ω) calls) :
    Along (step r) (fun s c => (bindContext r s c).1 = false → (bindContext r s c).2 = s)
        (init : State τ κ ω) calls ∧
      Always (step r) Bound (init : State τ κ ω) calls ↔
    Along (step r) (Stays r) (init : State τ κ ω) calls := by
  rw [and_iff_right (along_of_forall (fun _ _ _ => bindContext_refused) _)]
  refine always_iff_along_under (I := fun s => Regular s ∧ Bound s) (fun _ h => h.2) ?_ ?_ alone
    ⟨regular_init, bound_init⟩
  · intro s c t inv alone stays ht
    obtain ⟨reg, bound⟩ := inv
    obtain rfl := Option.some.inj ht
    obtain ⟨same, -⟩ | ⟨b, done⟩ := bindContext_cases r reg c
    · rw [same]
      exact ⟨reg, bound⟩
    · exact ⟨done.regular alone reg, done.bound alone reg bound stays⟩
  · intro s c t inv alone ht bound
    obtain ⟨reg, before⟩ := inv
    obtain rfl := Option.some.inj ht
    obtain ⟨-, refused⟩ | ⟨b, done⟩ := bindContext_cases r reg c
    · intro made b found
      cases (refused made).symm.trans found
    · exact done.stays reg before bound

/-- One context, and two surfaces. -/
def twoSurfaces : Objects Unit Bool Bool where
  mContexts h := if h = 1 then some () else none
  mWindows h := if h = 2 then some false else if h = 3 then some true else none
  isGL2 _ := true
  getEGLSurface := id
  apart := Function.injective_id

/-- A thread that gives its context back, and one that EGL refuses to take it from it. -/
theorem taken_context_kept :
    Along (step twoSurfaces) (fun s c => (bindContext twoSurfaces s c).1 = false →
        (bindContext twoSurfaces s c).2 = s) (init : State Bool Unit Bool)
        [⟨false, 1, 2, 3, true⟩, ⟨true, 1, 2, 3, false⟩, ⟨false, 0, 0, 0, true⟩] ∧
      Always (step twoSurfaces) Bound (init : State Bool Unit Bool)
        [⟨false, 1, 2, 3, true⟩, ⟨true, 1, 2, 3, false⟩, ⟨false, 0, 0, 0, true⟩] := by
  refine (bindContext_run_iff twoSurfaces _ ?_).mpr ?_
  · refine along_cons rfl ?_ (along_cons rfl nofun (along_cons rfl ?_ trivial))
    · intro _ b _ role w _ t _ role' w' surface
      cases role' <;> cases surface
    · intro _ b found role w surface
      obtain rfl := Option.some.inj found
      cases role <;> cases surface
  · refine along_cons rfl ?_ (along_cons rfl nofun (along_cons rfl ?_ trivial))
    · intro _ b _ _ role
      cases role <;> exact .inl rfl
    · intro _ b found binds
      obtain rfl := Option.some.inj found
      exact absurd rfl binds

/-- The surface that a thread leaves keeps its context. -/
theorem left_surface_holds_context : ¬ ∀ (r : Objects Unit Bool Bool) (calls : List (Call Unit)),
    Along (step r) (Exclusive r) (init : State Unit Unit Bool) calls →
      Along (step r) (fun s c => (bindContext r s c).1 = false → (bindContext r s c).2 = s)
          (init : State Unit Unit Bool) calls ∧
        Always (step r) Bound (init : State Unit Unit Bool) calls := by
  intro h
  have alone : Along (step twoSurfaces) (Exclusive twoSurfaces) (init : State Unit Unit Bool)
      [⟨(), 1, 2, 2, true⟩, ⟨(), 1, 3, 3, true⟩] :=
    along_of_forall (fun _ _ _ _ _ _ _ _ _ t other => absurd rfl other) _
  have bound := (h twoSurfaces _ alone).2.last rfl
  obtain ⟨t, surface, -⟩ := (bound .draw false ()).mp rfl
  cases surface

end Anbox.Graphics.BoundContexts
