import Anbox.Graphics.ColorBufferCounts
import Mathlib.Data.List.Perm.Basic

namespace Anbox.Graphics.Gralloc

open Anbox.Framework
open Anbox.Graphics.Renderer

variable {τ : Type*}

def EIO : Int := 5

def EINVAL : Int := 22

/-- A process's own copy of the handle of a buffer. -/
structure CbHandle where
  hostHandle : HandleType
  ashmemSize : Int
  mappedPid : Int
  deriving DecidableEq

/-- `hw` is a usage for which the host needs a color buffer, and `mapped` the error of the mapping. The
call returns a status and a handle, if it has one. -/
def grallocAlloc (host : Renderer.State τ) (ashmemSize mapped : Int) (hw connected created : Bool) :
    Option ((Int × Option CbHandle) × Renderer.State τ) :=
  if 0 < ashmemSize ∧ mapped ≠ 0 then some ((mapped, none), host)
  else if hw then
    if connected then
      (host.createColorBuffer created).map fun r =>
        (if r.1 = 0 then (- EIO, none) else (0, some ⟨r.1, ashmemSize, 0⟩), r.2)
    else some ((- EIO, none), host)
  else some ((0, some ⟨0, ashmemSize, 0⟩), host)

def openHost (host : Renderer.State τ) (cb : CbHandle) : Renderer.State τ :=
  if cb.hostHandle ≠ 0 then (host.openColorBuffer cb.hostHandle).2 else host

def closeHost (host : Renderer.State τ) (cb : CbHandle) : Renderer.State τ :=
  if cb.hostHandle ≠ 0 then host.closeColorBuffer cb.hostHandle else host

/-- What the host answers is not looked at. -/
def grallocRegisterBuffer (host : Renderer.State τ) (cb : CbHandle) (pid : Int) (connected : Bool)
    (mapped : Int) : (Int × CbHandle) × Renderer.State τ :=
  if cb.hostHandle ≠ 0 ∧ connected = false then ((- EIO, cb), host)
  else if 0 < cb.ashmemSize ∧ cb.mappedPid ≠ pid then
    (if mapped ≠ 0 then (-mapped, cb) else (0, { cb with mappedPid := pid }), openHost host cb)
  else ((0, cb), openHost host cb)

def grallocUnregisterBuffer (host : Renderer.State τ) (cb : CbHandle) (pid : Int) (connected : Bool)
    (unmapped : Int) : (Int × CbHandle) × Renderer.State τ :=
  if cb.hostHandle ≠ 0 ∧ connected = false then ((- EIO, cb), host)
  else if 0 < cb.ashmemSize ∧ cb.mappedPid = pid then
    (if unmapped ≠ 0 then (-EINVAL, cb) else (0, { cb with mappedPid := 0 }), closeHost host cb)
  else ((0, cb), closeHost host cb)

def grallocFree (host : Renderer.State τ) (cb : CbHandle) (connected : Bool) : Int × Renderer.State τ :=
  if cb.hostHandle ≠ 0 ∧ connected = false then (- EIO, host) else (0, closeHost host cb)

/-! The processes and the host. -/

/-- A copy that a process has allocated or registered, and the number of the color buffer it was
created with. -/
structure Copy where
  cb : CbHandle
  pid : Int
  colorBuffer : Nat

/-- `lost` are the handles of the references that no process has any more: of a registration that fails
behind the open, and of a copy that is dropped without a connection to close it over. -/
structure State (τ : Type*) where
  host : Renderer.State τ
  copies : List Copy
  lost : List HandleType

def init : State τ := ⟨Renderer.init, [], []⟩

/-- A process registers a handle it was sent by another that has it. `host` are the other calls of the
render threads, without those by which EGL has color buffers of its own behind pbuffers. -/
inductive Action (τ : Type*) where
  | alloc (pid ashmemSize mapped : Int) (hw connected created : Bool)
  | register (i : Nat) (pid : Int) (connected : Bool) (mapped : Int)
  | unregister (i : Nat) (connected : Bool) (unmapped : Int)
  | free (i : Nat) (connected : Bool)
  | host (a : Renderer.Action τ)

def ofColorBuffers : Renderer.Action τ → Bool
  | .createColorBuffer _ | .openColorBuffer _ | .closeColorBuffer _ => true
  | _ => false

namespace State

/-- The copy is gone, whatever the call has returned. -/
def drop (s : State τ) (i : Nat) (c : Copy) (connected : Bool) (host : Renderer.State τ) : State τ :=
  ⟨host, s.copies.eraseIdx i, if connected then s.lost else c.cb.hostHandle :: s.lost⟩

def add (s : State τ) (c : Copy) (host : Renderer.State τ) : State τ :=
  { s with host := host, copies := c :: s.copies }

def allocated (s : State τ) (pid : Int) (r : (Int × Option CbHandle) × Renderer.State τ) : State τ :=
  match r.1.2 with
  | none => { s with host := r.2 }
  | some cb => s.add ⟨cb, pid, s.host.colorBuffers⟩ r.2

/-- The process keeps the handle if the call succeeds. -/
def registered (s : State τ) (c : Copy) (pid : Int) (connected : Bool)
    (r : (Int × CbHandle) × Renderer.State τ) : State τ :=
  if r.1.1 = 0 then s.add ⟨r.1.2, pid, c.colorBuffer⟩ r.2
  else ⟨r.2, s.copies, if connected then c.cb.hostHandle :: s.lost else s.lost⟩

/-- The references there are to a handle. -/
def held (s : State τ) (h : HandleType) : Nat :=
  s.copies.countP (fun c => c.cb.hostHandle = h) + s.lost.count h

end State

section

variable [DecidableEq τ]

def step (s : State τ) : Action τ → Option (State τ)
  | .alloc pid ashmemSize mapped hw connected created =>
    (grallocAlloc s.host ashmemSize mapped hw connected created).map (s.allocated pid)
  | .register i pid connected mapped =>
    s.copies[i]?.map fun c =>
      s.registered c pid connected (grallocRegisterBuffer s.host c.cb pid connected mapped)
  | .unregister i connected unmapped =>
    s.copies[i]?.map fun c =>
      s.drop i c connected (grallocUnregisterBuffer s.host c.cb c.pid connected unmapped).2
  | .free i connected =>
    s.copies[i]?.map fun c => s.drop i c connected (grallocFree s.host c.cb connected).2
  | .host a =>
    if ofColorBuffers a then none else (Renderer.step s.host a).map fun host => { s with host := host }

/-- The host's renderer can count the references. -/
def Covered (s : State τ) : Action τ → Prop
  | .alloc _ _ _ _ _ created => Balanced s.host (.createColorBuffer created)
  | .register i _ _ _ => ∀ c, s.copies[i]? = some c → Balanced s.host (.openColorBuffer c.cb.hostHandle)
  | .unregister _ _ _ | .free _ _ => True
  | .host a => Balanced s.host a

end

/-! Counters. -/

def references (m : ColorBufferMap) (h : HandleType) : Nat :=
  ((m.lookup h).map fun ref => ref.refcount.toNat).getD 0

def Positive (m : ColorBufferMap) : Prop := ∀ h ref, m.lookup h = some ref → 0 < ref.refcount.toNat

section

variable {m : ColorBufferMap} {h : HandleType} {ref : ColorBufferRef}

theorem references_some (live : m.lookup h = some ref) : references m h = ref.refcount.toNat := by
  rw [references, live]
  rfl

theorem references_eq_zero (positive : Positive m) : references m h = 0 ↔ m.lookup h = none := by
  cases live : m.lookup h with
  | none => simp [references, live]
  | some ref =>
    have := positive h ref live
    rw [references_some live]
    simp only [reduceCtorEq, iff_false]
    omega

theorem references_insert (k : HandleType) :
    references (m.insert h ref) k = if k = h then ref.refcount.toNat else references m k := by
  split_ifs with same
  · rw [same]
    exact references_some (AList.lookup_insert m)
  · rw [references, AList.lookup_insert_ne same, references]

theorem Positive.insert (positive : Positive m) (pos : 0 < ref.refcount.toNat) : Positive (m.insert h ref) := by
  intro k r hr
  by_cases same : k = h
  · rw [same, AList.lookup_insert] at hr
    exact Option.some.inj hr ▸ pos
  · rw [AList.lookup_insert_ne same] at hr
    exact positive k r hr

/-- A release takes one reference, and no entry changes its color buffer. -/
theorem references_release (positive : Positive m) (live : m.lookup h = some ref) :
    references (release m h) h + 1 = references m h ∧ Positive (release m h) ∧
      ∀ r, (release m h).lookup h = some r → r.cb = ref.cb := by
  have others (k : HandleType) (ne : k ≠ h) (r : ColorBufferRef)
      (there : (release m h).lookup k = some r) : 0 < r.refcount.toNat :=
    positive k r ((release_ne ne).symm.trans there)
  rw [references_some live]
  rcases released_cases live (positive h ref live) with ⟨last, gone⟩ | ⟨rest, pos, less, left⟩
  · refine ⟨by rw [references, gone, last]; rfl, ?_, ?_⟩
    · intro k r there
      by_cases here : k = h
      · rw [here, gone] at there
        cases there
      · exact others k here r there
    · intro r there
      rw [gone] at there
      cases there
  · refine ⟨by rw [references_some left]; exact less, ?_, ?_⟩
    · intro k r there
      by_cases here : k = h
      · rw [here, left] at there
        exact Option.some.inj there ▸ pos
      · exact others k here r there
    · intro r there
      rw [left] at there
      exact (congrArg ColorBufferRef.cb (Option.some.inj there)).symm

end

/-- The host counts the references to each handle, and a copy is of the color buffer it was created
with. -/
structure Kept (s : State τ) : Prop where
  positive : Positive s.host.mColorbuffers
  counted : ∀ h ≠ 0, references s.host.mColorbuffers h = s.held h
  same : ∀ c ∈ s.copies, ∀ ref, s.host.mColorbuffers.lookup c.cb.hostHandle = some ref →
    c.cb.hostHandle ≠ 0 → ref.cb = c.colorBuffer

variable {s t : State τ} {c : Copy} {i : Nat}

theorem held_pos (mem : c ∈ s.copies) : 0 < s.held c.cb.hostHandle :=
  Nat.add_pos_left (List.countP_pos_iff.mpr ⟨c, mem, decide_eq_true rfl⟩) _

theorem held_add (s : State τ) (c : Copy) (host : Renderer.State τ) (h : HandleType) :
    (s.add c host).held h = s.held h + if c.cb.hostHandle = h then 1 else 0 := by
  rw [State.held, State.add, List.countP_cons, State.held]
  simp only [decide_eq_true_eq]
  omega

theorem held_drop (there : s.copies[i]? = some c) (connected : Bool) (host : Renderer.State τ)
    (h : HandleType) : (s.drop i c connected host).held h +
      (if connected = true ∧ c.cb.hostHandle = h then 1 else 0) = s.held h := by
  obtain ⟨inside, rfl⟩ := List.getElem?_eq_some_iff.mp there
  have counted := (List.getElem_cons_eraseIdx_perm inside).countP_eq
    (p := fun c : Copy => decide (c.cb.hostHandle = h))
  rw [List.countP_cons] at counted
  simp only [State.held, State.drop, ← counted, decide_eq_true_eq]
  cases connected with
  | true =>
    simp only [if_true, true_and]
    omega
  | false =>
    simp only [Bool.false_eq_true, if_false, false_and, List.count_cons, beq_iff_eq]
    omega

namespace Kept

theorem live (k : Kept s) (mem : c ∈ s.copies) (shown : c.cb.hostHandle ≠ 0) :
    ∃ ref, s.host.mColorbuffers.lookup c.cb.hostHandle = some ref := by
  refine Option.ne_none_iff_exists'.mp fun none => ?_
  have counted := k.counted _ shown
  rw [(references_eq_zero k.positive).mpr none] at counted
  exact absurd counted.symm (held_pos mem).ne'

/-- No entry is new, and the copies are those there were or copies of them. -/
theorem of_counts (k : Kept s) (positive : Positive t.host.mColorbuffers)
    (counted : ∀ h ≠ 0, references t.host.mColorbuffers h = t.held h)
    (entries : ∀ h r, t.host.mColorbuffers.lookup h = some r →
      ∃ ref, s.host.mColorbuffers.lookup h = some ref ∧ r.cb = ref.cb)
    (copies : ∀ c ∈ t.copies, ∃ d ∈ s.copies, c.cb.hostHandle = d.cb.hostHandle ∧
      c.colorBuffer = d.colorBuffer) : Kept t := by
  refine ⟨positive, counted, ?_⟩
  intro c hc r hr shown
  obtain ⟨ref, before, unchanged⟩ := entries _ r hr
  obtain ⟨d, hd, handle, colorBuffer⟩ := copies c hc
  rw [handle] at before shown
  rw [unchanged, colorBuffer]
  exact k.same d hd ref before shown

/-- The host opens a buffer that a copy is of. -/
theorem opened (k : Kept s) (mem : c ∈ s.copies)
    (room : Balanced s.host (.openColorBuffer c.cb.hostHandle)) :
    Positive (openHost s.host c.cb).mColorbuffers ∧
      (∀ h ≠ 0, references (openHost s.host c.cb).mColorbuffers h =
        references s.host.mColorbuffers h + if c.cb.hostHandle = h then 1 else 0) ∧
      ∀ h r, (openHost s.host c.cb).mColorbuffers.lookup h = some r →
        ∃ ref, s.host.mColorbuffers.lookup h = some ref ∧ r.cb = ref.cb := by
  by_cases shown : c.cb.hostHandle ≠ 0
  · obtain ⟨ref, there⟩ := k.live mem shown
    have more : (ref.refcount + 1).toNat = ref.refcount.toNat + 1 := by
      rw [UInt32.toNat_add, UInt32.toNat_one]
      exact Nat.mod_eq_of_lt (room ref there)
    have opens : (openHost s.host c.cb).mColorbuffers = s.host.mColorbuffers.insert c.cb.hostHandle
        { ref with refcount := ref.refcount + 1 } := by
      rw [openHost, if_pos shown, Renderer.State.openColorBuffer, there]
    rw [opens]
    refine ⟨k.positive.insert (more ▸ Nat.succ_pos _), ?_, ?_⟩
    · intro h _
      rw [references_insert, more]
      by_cases here : h = c.cb.hostHandle
      · rw [if_pos here, if_pos here.symm, here, references_some there]
      · rw [if_neg here, if_neg (Ne.symm here), Nat.add_zero]
    · intro h r hr
      by_cases here : h = c.cb.hostHandle
      · rw [here, AList.lookup_insert] at hr
        exact ⟨ref, here ▸ there, (congrArg ColorBufferRef.cb (Option.some.inj hr)).symm⟩
      · rw [AList.lookup_insert_ne here] at hr
        exact ⟨r, hr, rfl⟩
  · rw [openHost, if_neg shown]
    refine ⟨k.positive, ?_, fun h r hr => ⟨r, hr, rfl⟩⟩
    intro h hh
    have other : c.cb.hostHandle ≠ h := fun here => hh (here ▸ not_not.mp shown)
    rw [if_neg other, Nat.add_zero]

/-- The host closes a buffer that a copy is of. -/
theorem closed (k : Kept s) (mem : c ∈ s.copies) :
    Positive (closeHost s.host c.cb).mColorbuffers ∧
      (∀ h ≠ 0, references (closeHost s.host c.cb).mColorbuffers h +
        (if c.cb.hostHandle = h then 1 else 0) = references s.host.mColorbuffers h) ∧
      ∀ h r, (closeHost s.host c.cb).mColorbuffers.lookup h = some r →
        ∃ ref, s.host.mColorbuffers.lookup h = some ref ∧ r.cb = ref.cb := by
  by_cases shown : c.cb.hostHandle ≠ 0
  · obtain ⟨ref, there⟩ := k.live mem shown
    obtain ⟨less, positive, names⟩ := references_release k.positive there
    have closes : (closeHost s.host c.cb).mColorbuffers =
        release s.host.mColorbuffers c.cb.hostHandle := by
      rw [closeHost, if_pos shown, Renderer.State.closeColorBuffer, there]
    rw [closes]
    refine ⟨positive, ?_, ?_⟩
    · intro h _
      by_cases here : c.cb.hostHandle = h
      · rw [if_pos here, ← here, less]
      · rw [if_neg here, Nat.add_zero, references, release_ne (Ne.symm here), references]
    · intro h r hr
      by_cases here : h = c.cb.hostHandle
      · rw [here] at hr ⊢
        exact ⟨ref, there, names r hr⟩
      · exact ⟨r, (release_ne here).symm.trans hr, rfl⟩
  · rw [closeHost, if_neg shown]
    refine ⟨k.positive, ?_, fun h r hr => ⟨r, hr, rfl⟩⟩
    intro h hh
    have other : c.cb.hostHandle ≠ h := fun here => hh (here ▸ not_not.mp shown)
    rw [if_neg other, Nat.add_zero]

theorem allocated (k : Kept s) {pid ashmemSize mapped : Int} {hw connected created : Bool}
    {r : (Int × Option CbHandle) × Renderer.State τ}
    (clear : Balanced s.host (.createColorBuffer created))
    (did : grallocAlloc s.host ashmemSize mapped hw connected created = some r) :
    Kept (s.allocated pid r) := by
  unfold grallocAlloc at did
  split_ifs at did
  · obtain rfl := Option.some.inj did
    exact k
  · obtain ⟨q, hq, rfl⟩ := Option.map_eq_some_iff.mp did
    cases created with
    | false =>
      obtain rfl := Option.some.inj hq
      exact k
    | true =>
      obtain ⟨id, hid, rfl⟩ := Option.map_eq_some_iff.mp hq
      have unused := (unused_iff_clear hid).mpr (clear rfl)
      have shown := (genHandle_free hid).1
      have free : s.held id = 0 := by
        rw [← k.counted id shown, references_eq_zero k.positive]
        exact unused
      rw [State.allocated, if_neg shown]
      refine ⟨k.positive.insert Nat.zero_lt_one, ?_, ?_⟩
      · intro h hh
        rw [held_add]
        refine (references_insert h).trans ?_
        by_cases here : h = id
        · rw [if_pos here, if_pos here.symm, here, free]
          rfl
        · rw [if_neg here, if_neg (Ne.symm here), k.counted h hh, Nat.add_zero]
      · intro c hc ref there visible
        rcases List.mem_cons.mp hc with rfl | old
        · obtain rfl := Option.some.inj ((AList.lookup_insert _).symm.trans there)
          rfl
        · have other : c.cb.hostHandle ≠ id := by
            intro here
            have := held_pos old
            rw [here, free] at this
            exact absurd this (Nat.lt_irrefl 0)
          exact k.same c old ref ((AList.lookup_insert_ne other).symm.trans there) visible
  · obtain rfl := Option.some.inj did
    exact k
  · obtain rfl := Option.some.inj did
    refine ⟨k.positive, ?_, ?_⟩
    · intro h hh
      rw [State.allocated, held_add, if_neg (Ne.symm hh)]
      exact k.counted h hh
    · intro c hc ref there visible
      rcases List.mem_cons.mp hc with rfl | old
      · exact absurd rfl visible
      · exact k.same c old ref there visible

/-- A reference is taken for the new copy, or is lost with it. -/
theorem registered (k : Kept s) (there : s.copies[i]? = some c) (pid : Int) (connected : Bool)
    (mapped : Int) (room : Balanced s.host (.openColorBuffer c.cb.hostHandle)) :
    Kept (s.registered c pid connected (grallocRegisterBuffer s.host c.cb pid connected mapped)) := by
  have mem := List.mem_of_getElem? there
  obtain ⟨positive, counts, entries⟩ := k.opened mem room
  have kept (cb : CbHandle) (handle : cb.hostHandle = c.cb.hostHandle) :
      Kept (s.add ⟨cb, pid, c.colorBuffer⟩ (openHost s.host c.cb)) := by
    refine k.of_counts positive ?_ entries ?_
    · intro h hh
      rw [held_add, handle, ← k.counted h hh]
      exact counts h hh
    · intro d hd
      rcases List.mem_cons.mp hd with rfl | old
      · exact ⟨c, mem, handle, rfl⟩
      · exact ⟨d, old, rfl, rfl⟩
  rw [grallocRegisterBuffer]
  split_ifs with unconnected _ fails
  · rw [State.registered, if_neg (by decide : ¬- EIO = 0), unconnected.2]
    exact k
  · rw [State.registered, if_neg (by simpa using fails)]
    refine k.of_counts positive ?_ entries fun d hd => ⟨d, hd, rfl, rfl⟩
    intro h hh
    rw [counts h hh, k.counted h hh]
    cases connected with
    | true =>
      simp only [State.held, if_true, List.count_cons, beq_iff_eq]
      omega
    | false =>
      have hidden : c.cb.hostHandle ≠ h := by
        intro here
        exact unconnected ⟨here ▸ hh, rfl⟩
      rw [if_neg hidden]
      rfl
  · rw [State.registered, if_pos rfl]
    exact kept _ rfl
  · rw [State.registered, if_pos rfl]
    exact kept _ rfl

/-- A copy is dropped: its reference is given back, or is lost. -/
theorem drop (k : Kept s) (there : s.copies[i]? = some c) {connected : Bool} {host : Renderer.State τ}
    (closes : connected = false ∧ host = s.host ∨
      (c.cb.hostHandle ≠ 0 → connected = true) ∧ host = closeHost s.host c.cb) :
    Kept (s.drop i c connected host) := by
  have copies : ∀ d ∈ (s.drop i c connected host).copies, ∃ e ∈ s.copies,
      d.cb.hostHandle = e.cb.hostHandle ∧ d.colorBuffer = e.colorBuffer :=
    fun d hd => ⟨d, List.mem_of_mem_eraseIdx hd, rfl, rfl⟩
  rcases closes with ⟨rfl, rfl⟩ | ⟨connects, rfl⟩
  · refine k.of_counts k.positive ?_ (fun h r hr => ⟨r, hr, rfl⟩) copies
    intro h hh
    have dropped := held_drop there false s.host h
    rw [if_neg (by simp)] at dropped
    exact (k.counted h hh).trans dropped.symm
  · obtain ⟨positive, counts, entries⟩ := k.closed (List.mem_of_getElem? there)
    refine k.of_counts positive ?_ entries copies
    intro h hh
    have dropped := held_drop there connected (closeHost s.host c.cb) h
    have closed := counts h hh
    rw [k.counted h hh, ← dropped] at closed
    by_cases here : c.cb.hostHandle = h
    · rw [if_pos here, if_pos ⟨connects (here ▸ hh), here⟩] at closed
      exact Nat.add_right_cancel closed
    · rw [if_neg here, if_neg fun both => here both.2] at closed
      exact closed

end Kept

theorem unregister_closes (host : Renderer.State τ) (cb : CbHandle) (pid : Int) (connected : Bool)
    (unmapped : Int) :
    connected = false ∧ (grallocUnregisterBuffer host cb pid connected unmapped).2 = host ∨
      (cb.hostHandle ≠ 0 → connected = true) ∧
        (grallocUnregisterBuffer host cb pid connected unmapped).2 = closeHost host cb := by
  rw [grallocUnregisterBuffer]
  split_ifs with unconnected
  · exact .inl ⟨unconnected.2, rfl⟩
  all_goals
    refine .inr ⟨fun shown => ?_, rfl⟩
    simpa [shown] using unconnected

theorem free_closes (host : Renderer.State τ) (cb : CbHandle) (connected : Bool) :
    connected = false ∧ (grallocFree host cb connected).2 = host ∨
      (cb.hostHandle ≠ 0 → connected = true) ∧
        (grallocFree host cb connected).2 = closeHost host cb := by
  rw [grallocFree]
  split_ifs with unconnected
  · exact .inl ⟨unconnected.2, rfl⟩
  · refine .inr ⟨fun shown => ?_, rfl⟩
    simpa [shown] using unconnected

theorem kept_init : Kept (init : State τ) where
  positive := nofun
  counted := fun _ _ => rfl
  same := nofun

variable [DecidableEq τ]

/-- The other calls leave the color buffers as they are. -/
theorem mColorbuffers_kept {host host' : Renderer.State τ} {a : Renderer.Action τ}
    (other : ofColorBuffers a = false) (balanced : Balanced host a)
    (did : Renderer.step host a = some host') : host'.mColorbuffers = host.mColorbuffers := by
  cases step_cases did with
  | colorBuffer | openColorBuffer | closeColorBuffer => cases other
  | context | window | nothing | destroyRenderContext | setColorBuffer => rfl
  | drainRenderContext u => rw [drainRenderContext_eq]
  | drainWindowSurface u => exact (drain_frame host u).1.trans (drainWindows_quiet balanced)
  | destroyWindowSurface u p =>
    rw [Renderer.State.destroyWindowSurface]
    split_ifs <;> rfl

theorem Kept.step {a : Action τ} (k : Kept s) (covered : Covered s a) (did : step s a = some t) :
    Kept t := by
  cases a with
  | alloc pid ashmemSize mapped hw connected created =>
    obtain ⟨r, hr, rfl⟩ := Option.map_eq_some_iff.mp did
    exact k.allocated covered hr
  | register i pid connected mapped =>
    obtain ⟨c, there, rfl⟩ := Option.map_eq_some_iff.mp did
    exact k.registered there pid connected mapped (covered c there)
  | unregister i connected unmapped =>
    obtain ⟨c, there, rfl⟩ := Option.map_eq_some_iff.mp did
    exact k.drop there (unregister_closes s.host c.cb c.pid connected unmapped)
  | free i connected =>
    obtain ⟨c, there, rfl⟩ := Option.map_eq_some_iff.mp did
    exact k.drop there (free_closes s.host c.cb connected)
  | host a =>
    rw [Gralloc.step] at did
    split_ifs at did with other
    obtain ⟨host', hhost, rfl⟩ := Option.map_eq_some_iff.mp did
    have same := mColorbuffers_kept (Bool.eq_false_of_not_eq_true other) covered hhost
    refine ⟨?_, ?_, ?_⟩
    · exact same ▸ k.positive
    · exact same ▸ k.counted
    · exact same ▸ k.same

/-- A color buffer is on the host as long as a process has it or a reference to it is lost, and each
copy is of the color buffer that it was created with. -/
theorem buffers_live_while_held {as : List (Action τ)} {s : State τ}
    (covered : Along step Covered init as) (did : run step init as = some s) :
    (∀ h ≠ 0, s.host.mColorbuffers.lookup h = none ↔ s.held h = 0) ∧
      ∀ c ∈ s.copies, c.cb.hostHandle ≠ 0 → ∃ ref,
        s.host.mColorbuffers.lookup c.cb.hostHandle = some ref ∧ ref.cb = c.colorBuffer ∧
          ref.refcount.toNat = s.held c.cb.hostHandle := by
  have k : Kept s := invariant_run (fun _ _ _ k covered did => k.step covered did) kept_init covered did
  refine ⟨?_, ?_⟩
  · intro h hh
    rw [← k.counted h hh]
    exact (references_eq_zero k.positive).symm
  · intro c mem shown
    obtain ⟨ref, there⟩ := k.live mem shown
    refine ⟨ref, there, k.same c mem ref there shown, ?_⟩
    rw [← references_some there]
    exact k.counted _ shown

def passedOn : List (Action Unit) :=
  [.alloc 1 0 0 true true true, .register 0 2 true 0, .free 1 true]

/-- The process that has allocated a buffer frees it when another has registered it. -/
theorem passed_on_live : ∃ s : State Unit, run step init passedOn = some s ∧
    ∃ ref, s.host.mColorbuffers.lookup 1 = some ref ∧ ref.refcount.toNat = 1 := by
  have covered : Along step Covered (init : State Unit) passedOn := by
    refine along_cons rfl ?_ (along_cons rfl ?_ (along_cons rfl trivial trivial))
    · intro _ h live
      cases live
    · intro c hc ref live
      obtain rfl := Option.some.inj hc
      obtain rfl := Option.some.inj live
      decide
  have did : ∃ s : State Unit, run step init passedOn = some s ∧
      ∃ c, s.copies = [c] ∧ c.cb.hostHandle = 1 ∧ s.held 1 = 1 := ⟨_, rfl, _, rfl, rfl, rfl⟩
  obtain ⟨s, hs, c, copies, handle, held⟩ := did
  have mem : c ∈ s.copies := by
    rw [copies]
    exact List.mem_singleton_self c
  obtain ⟨ref, live, -, counted⟩ := (buffers_live_while_held covered hs).2 c mem (by simp [handle])
  rw [handle] at live counted
  exact ⟨s, hs, ref, live, counted.trans held⟩

end Anbox.Graphics.Gralloc
