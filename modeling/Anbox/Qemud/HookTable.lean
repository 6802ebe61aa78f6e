import Anbox.Qemud.EventLoop

namespace Anbox.Qemud.EventLoop

open Anbox.Framework

/-! Masks. -/

theorem or_eq_left {w e : Events} (h : e &&& ~~~w = 0) : w ||| e = w := by
  apply BitVec.eq_of_getLsbD_eq
  intro k hk
  have bit := congrArg (fun b => b.getLsbD k) h
  simp [hk] at bit ⊢
  exact bit

theorem and_not_eq_left {w e : Events} (h : e &&& w = 0) : w &&& ~~~e = w := by
  apply BitVec.eq_of_getLsbD_eq
  intro k hk
  have bit := congrArg (fun b => b.getLsbD k) h
  simp [hk] at bit ⊢
  intro wanted
  cases there : e[k] with
  | false => rfl
  | true =>
    rw [bit there] at wanted
    cases wanted

variable {l : Looper} {live : Nat → Option Registration} {fd i : Nat} {h : Hook}

/-! Single operations. -/

theorem getElem?_set_of_some {α : Type*} {as : List α} {i : Nat} {a : α} (h : as[i]? = some a)
    (b : α) (j : Nat) : (as.set i b)[j]? = if i = j then some b else as[j]? := by
  have bound : i < as.length := (List.getElem?_eq_some_iff.mp h).1
  rw [List.getElem?_set, if_pos bound]

theorem getElem?_set_at {α : Type*} {as : List α} {i : Nat} {a : α} (h : as[i]? = some a) (b : α) :
    (as.set i b)[i]? = some b := (getElem?_set_of_some h b i).trans (if_pos rfl)

theorem index_ne_of_ne {α : Type*} {as : List α} {i j : Nat} {a b : α} (hi : as[i]? = some a)
    (hj : as[j]? = some b) (ne : a ≠ b) : i ≠ j := by
  intro same
  subst same
  exact ne (Option.some.inj (hi.symm.trans hj))

theorem modify_eq_set {α : Type*} {as : List α} {i : Nat} {a : α} (h : as[i]? = some a)
    (f : α → α) : as.modify i f = as.set i (f a) := by
  apply List.ext_getElem?
  intro j
  rw [List.getElem?_modify, getElem?_set_of_some h]
  split_ifs with at_
  · rw [← at_, h]
    rfl
  · simp

theorem epollMod_apply (ep : Epoll) (fd fd' : Nat) (e : Entry) :
    epollMod ep fd e fd' = if fd' = fd then (ep fd).map fun _ => e else ep fd' := by
  unfold epollMod
  split_ifs with same
  · subst same
    cases there : ep fd' <;> simp [there]
  · cases ep fd <;> simp [same]

theorem looperFind_some (found : looperFind l fd = some (i, h)) :
    l.hooks[i]? = some h ∧ h.fd = fd ∧ ∀ j h', l.hooks[j]? = some h' → h'.fd = fd → i ≤ j := by
  obtain ⟨k, at_, there⟩ := Option.bind_eq_some_iff.mp found
  obtain ⟨h', hk, same⟩ := Option.map_eq_some_iff.mp there
  obtain ⟨rfl, rfl⟩ := Prod.mk.inj same
  obtain ⟨bound, fits, first⟩ := List.findIdx?_eq_some_iff_getElem.mp at_
  obtain ⟨_, rfl⟩ := List.getElem?_eq_some_iff.mp hk
  refine ⟨hk, by simpa using fits, ?_⟩
  intro j h' hj same
  by_contra before
  obtain ⟨_, rfl⟩ := List.getElem?_eq_some_iff.mp hj
  exact first j (Nat.not_le.mp before) (by simpa using same)

theorem looperFind_none (found : looperFind l fd = none) :
    ∀ h ∈ l.hooks, h.fd ≠ fd := by
  have none : l.hooks.findIdx? (fun h => decide (h.fd = fd)) = none := by
    cases at_ : l.hooks.findIdx? fun h => decide (h.fd = fd) with
    | none => rfl
    | some k =>
      obtain ⟨bound, -, -⟩ := List.findIdx?_eq_some_iff_getElem.mp at_
      rw [looperFind, at_, Option.bind_some, List.getElem?_eq_getElem bound] at found
      cases found
  intro h there
  simpa using List.findIdx?_eq_none_iff.mp none h there

/-! The table. -/

/-- A hook that is not closed is that of a live registration, and epoll's entry of its descriptor
leads to it; a closed hook may have the descriptor of a later one, whose mask is still empty. -/
structure Table (l : Looper) (live : Nat → Option Registration) : Prop where
  hook : ∀ (i : Nat) (h : Hook), l.hooks[i]? = some h → h.closing = false → ∃ r, live h.fd = some r ∧
    h.evUser = r.id ∧ h.wanted = r.wanted ∧ l.epoll h.fd = some ⟨h.wanted, ⟨l.array, i⟩⟩
  found : ∀ fd r, live fd = some r →
    ∃ (i : Nat) (h : Hook), l.hooks[i]? = some h ∧ h.fd = fd ∧ h.closing = false
  dead : ∀ fd, live fd = none → l.epoll fd = none
  stale : ∀ (i j : Nat) (c h : Hook), l.hooks[i]? = some c → l.hooks[j]? = some h → c.closing = true →
    h.closing = false → c.fd = h.fd → i < j ∧ h.wanted = 0

namespace Table

theorem init : Table looperInit fun _ => none where
  hook := fun i h hi => by cases hi
  found := fun fd r hr => by cases hr
  dead := fun _ _ => rfl
  stale := fun i j c h hi => by cases hi

/-- No two hooks that are not closed have one descriptor. -/
theorem unique (T : Table l live) {i j : Nat} {h h' : Hook} (hi : l.hooks[i]? = some h)
    (hj : l.hooks[j]? = some h') (open_ : h.closing = false) (open' : h'.closing = false)
    (same : h.fd = h'.fd) : i = j := by
  obtain ⟨r, -, -, -, entry⟩ := T.hook i h hi open_
  obtain ⟨r', -, -, -, entry'⟩ := T.hook j h' hj open'
  rw [same, entry'] at entry
  exact (congrArg (fun e => e.ptr.index) (Option.some.inj entry)).symm

theorem hooked (T : Table l live) {r : Registration} (hr : live fd = some r) : Hooked l fd r := by
  obtain ⟨i, h, hi, rfl, open_⟩ := T.found fd r hr
  obtain ⟨r', hr', user, wanted, entry⟩ := T.hook i h hi open_
  obtain rfl := Option.some.inj (hr.symm.trans hr')
  exact ⟨i, h, hi, rfl, open_, user, wanted, entry,
    fun j h' hj same open' => T.unique hj hi open' open_ same⟩

/-- What epoll has is live. -/
theorem live_of_epoll (T : Table l live) (h : (l.epoll fd).isSome = true) : ∃ r, live fd = some r := by
  cases hr : live fd with
  | some r => exact ⟨r, rfl⟩
  | none =>
    rw [T.dead fd hr] at h
    cases h

/-- A hook may be replaced by one that differs in what is marked only. -/
theorem set_marked (T : Table l live) {h' : Hook} (hi : l.hooks[i]? = some h) (same : h'.fd = h.fd)
    (closing : h'.closing = h.closing) (user : h'.evUser = h.evUser)
    (wanted : h'.wanted = h.wanted) : Table { l with hooks := l.hooks.set i h' } live := by
  have old : ∀ (j : Nat) (g : Hook), (l.hooks.set i h')[j]? = some g → ∃ g' : Hook,
      l.hooks[j]? = some g' ∧ g.fd = g'.fd ∧ g.closing = g'.closing ∧ g.evUser = g'.evUser ∧
        g.wanted = g'.wanted := by
    intro j g hj
    rw [getElem?_set_of_some hi] at hj
    split_ifs at hj with at_
    · obtain rfl := Option.some.inj hj
      exact ⟨h, at_ ▸ hi, same, closing, user, wanted⟩
    · exact ⟨g, hj, rfl, rfl, rfl, rfl⟩
  refine ⟨?_, ?_, T.dead, ?_⟩
  · intro j g hj open_
    obtain ⟨g', hj', fd, closing, user, wanted⟩ := old j g hj
    rw [fd, user, wanted]
    exact T.hook j g' hj' (closing ▸ open_)
  · intro fd r hr
    obtain ⟨j, g, hj, at_, open_⟩ := T.found fd r hr
    by_cases first : i = j
    · subst first
      obtain rfl := Option.some.inj (hi.symm.trans hj)
      exact ⟨i, h', getElem?_set_at hi h', same.trans at_, closing.trans open_⟩
    · exact ⟨j, g, (List.getElem?_set_ne first).trans hj, at_, open_⟩
  · intro j k c g hj hk closed open_ same
    obtain ⟨c', hj', fd, closing, -, -⟩ := old j c hj
    obtain ⟨g', hk', fd', closing', -, wanted'⟩ := old k g hk
    rw [wanted']
    exact T.stale j k c' g' hj' hk' (closing ▸ closed) (closing' ▸ open_) (fd ▸ fd' ▸ same)

/-- What a closed hook is replaced by does not matter, as long as it is closed. -/
theorem set_closed (T : Table l live) {h' : Hook} (hi : l.hooks[i]? = some h)
    (closed : h.closing = true) (same : h'.fd = h.fd) (closed' : h'.closing = true) :
    Table { l with hooks := l.hooks.set i h' } live := by
  have open_ : ∀ (j : Nat) (g : Hook), (l.hooks.set i h')[j]? = some g → g.closing = false →
      l.hooks[j]? = some g := by
    intro j g hj open_
    rw [getElem?_set_of_some hi] at hj
    split_ifs at hj
    · obtain rfl := Option.some.inj hj
      rw [closed'] at open_
      cases open_
    · exact hj
  refine ⟨fun j g hj hg => T.hook j g (open_ j g hj hg) hg, ?_, T.dead, ?_⟩
  · intro fd r hr
    obtain ⟨j, g, hj, at_, hg⟩ := T.found fd r hr
    have other : i ≠ j := index_ne_of_ne hi hj fun same => by simp [← same, closed] at hg
    exact ⟨j, g, (List.getElem?_set_ne other).trans hj, at_, hg⟩
  · intro j k c g hj hk hc hg fd
    have hk := open_ k g hk hg
    rw [getElem?_set_of_some hi] at hj
    split_ifs at hj with at_
    · obtain rfl := Option.some.inj hj
      exact T.stale j k h g (at_ ▸ hi) hk closed hg (same ▸ fd)
    · exact T.stale j k c g hj hk hc hg fd

theorem setWanted (T : Table l live) {r : Registration} (hi : l.hooks[i]? = some h)
    (open_ : h.closing = false) (hr : live h.fd = some r)
    (first : ∀ (j : Nat) (g : Hook), l.hooks[j]? = some g → g.fd = h.fd → i ≤ j) (w : Events) :
    Table (EventLoop.setWanted l i h w)
      (Function.update live h.fd (some { r with wanted := w })) := by
  obtain ⟨r', hr', user, -, entry⟩ := T.hook i h hi open_
  obtain rfl := Option.some.inj (hr.symm.trans hr')
  have epoll : ∀ fd, (EventLoop.setWanted l i h w).epoll fd =
      if fd = h.fd then some ⟨w, ⟨l.array, i⟩⟩ else l.epoll fd := by
    intro fd
    change epollMod l.epoll h.fd ⟨w, ⟨l.array, i⟩⟩ fd = _
    rw [epollMod_apply, entry]
    rfl
  refine ⟨?_, ?_, ?_, ?_⟩
  · intro j g hj hg
    rw [epoll]
    change (l.hooks.set i { h with wanted := w })[j]? = some g at hj
    rw [getElem?_set_of_some hi] at hj
    split_ifs at hj with at_
    · subst at_
      obtain rfl := Option.some.inj hj
      exact ⟨_, Function.update_self .., user, rfl, if_pos rfl⟩
    · have other : g.fd ≠ h.fd := fun same => at_ (T.unique hj hi hg open_ same).symm
      rw [Function.update_of_ne other, if_neg other]
      exact T.hook j g hj hg
  · intro fd r' hr'
    by_cases same : fd = h.fd
    · exact ⟨i, { h with wanted := w }, getElem?_set_at hi _, same.symm, open_⟩
    · rw [Function.update_of_ne same] at hr'
      obtain ⟨j, g, hj, at_, hg⟩ := T.found fd r' hr'
      have other : i ≠ j := index_ne_of_ne hi hj fun eq => same (by rw [eq, at_])
      exact ⟨j, g, (List.getElem?_set_ne other).trans hj, at_, hg⟩
  · intro fd dead
    obtain ⟨other, dead⟩ := (update_eq_iff_of_ne (Option.some_ne_none _) fd).mp dead
    rw [epoll, if_neg other]
    exact T.dead fd dead
  · intro j k c g hj hk hc hg fd
    change (l.hooks.set i { h with wanted := w })[j]? = some c at hj
    change (l.hooks.set i { h with wanted := w })[k]? = some g at hk
    rw [getElem?_set_of_some hi] at hj hk
    split_ifs at hj
    · obtain rfl := Option.some.inj hj
      exact absurd hc (by simp [open_])
    · split_ifs at hk with at_
      · obtain rfl := Option.some.inj hk
        have before := (T.stale j i c h hj hi hc open_ fd).1
        exact absurd before (Nat.not_lt.mpr (first j c hj fd))
      · exact T.stale j k c g hj hk hc hg fd

/-- A registration whose descriptor is not found has gone. -/
theorem dead_of_find_none (T : Table l live) (none : looperFind l fd = none) : live fd = .none := by
  cases hr : live fd with
  | none => rfl
  | some r =>
    obtain ⟨i, h, hi, at_, -⟩ := T.found fd r hr
    exact absurd at_ (looperFind_none none h (List.mem_of_getElem? hi))

/-- A change of a mask, where the hook that is found is that of the registration, or nothing is to
change. -/
theorem change (T : Table l live) {changes : Events → Prop} [DecidablePred changes]
    {f : Events → Events} (same : ∀ w, ¬ changes w → f w = w)
    (fits : ∀ i c, looperFind l fd = some (i, c) → c.closing = true → (live fd).isSome = true →
      ¬ changes c.wanted ∧ f 0 = 0) :
    Table (changeWanted l fd changes f)
      (Function.update live fd ((live fd).map fun r => { r with wanted := f r.wanted })) := by
  unfold changeWanted
  cases find : looperFind l fd with
  | none =>
    have dead := T.dead_of_find_none find
    rwa [dead, Option.map_none, Function.update_eq_self_iff.mpr dead.symm]
  | some p =>
    obtain ⟨i, h⟩ := p
    obtain ⟨hi, rfl, first⟩ := looperFind_some find
    dsimp only
    cases closing : h.closing with
    | false =>
      obtain ⟨r, hr, -, wanted, -⟩ := T.hook i h hi closing
      rw [hr, Option.map_some, ← wanted]
      split_ifs with changed
      · exact T.setWanted hi closing hr first (f h.wanted)
      · rwa [same h.wanted changed, wanted, Function.update_eq_self_iff.mpr hr.symm]
    | true =>
      cases hr : live h.fd with
      | none =>
        rw [Option.map_none, Function.update_eq_self_iff.mpr hr.symm]
        split_ifs with changed
        · have gone : epollMod l.epoll h.fd ⟨f h.wanted, ⟨l.array, i⟩⟩ = l.epoll := by
            rw [epollMod, T.dead h.fd hr]
          rw [EventLoop.setWanted, gone]
          exact T.set_closed hi closing rfl closing
        · exact T
      | some r =>
        obtain ⟨unchanged, zero⟩ := fits i h find closing (by rw [hr]; rfl)
        obtain ⟨j, g, hj, at_, hg⟩ := T.found h.fd r hr
        obtain ⟨r', hr', -, wanted, -⟩ := T.hook j g hj hg
        rw [at_] at hr'
        obtain rfl := Option.some.inj (hr.symm.trans hr')
        have empty := (T.stale i j h g hi hj closing hg at_.symm).2
        rw [Option.map_some, ← wanted, empty, zero, ← empty, wanted,
          Function.update_eq_self_iff.mpr hr.symm, if_neg unchanged]
        exact T

/-- The hook of a registration is closed. -/
theorem close (T : Table l live) (hi : l.hooks[i]? = some h) (open_ : h.closing = false) :
    Table { l with
        hooks := l.hooks.set i { h with closing := true }
        epoll := epollDel l.epoll h.fd }
      (Function.update live h.fd none) := by
  have old : ∀ (j : Nat) (g : Hook), (l.hooks.set i { h with closing := true })[j]? = some g →
      g.closing = false → l.hooks[j]? = some g ∧ g.fd ≠ h.fd := by
    intro j g hj hg
    rw [getElem?_set_of_some hi] at hj
    split_ifs at hj with at_
    · obtain rfl := Option.some.inj hj
      cases hg
    · exact ⟨hj, fun same => at_ (T.unique hj hi hg open_ same).symm⟩
  refine ⟨?_, ?_, ?_, ?_⟩
  · intro j g hj hg
    obtain ⟨hj, other⟩ := old j g hj hg
    dsimp only [epollDel]
    rw [Function.update_of_ne other, Function.update_of_ne other]
    exact T.hook j g hj hg
  · intro fd r hr
    obtain ⟨other, hr⟩ := (update_eq_iff_of_ne (Option.some_ne_none r).symm fd).mp hr
    obtain ⟨j, g, hj, at_, hg⟩ := T.found fd r hr
    have ne : i ≠ j := index_ne_of_ne hi hj fun eq => other (by rw [eq, at_])
    exact ⟨j, g, (List.getElem?_set_ne ne).trans hj, at_, hg⟩
  · intro fd dead
    dsimp only [epollDel]
    by_cases same : fd = h.fd
    · rw [same, Function.update_self]
    · rw [Function.update_of_ne same] at dead ⊢
      exact T.dead fd dead
  · intro j k c g hj hk hc hg fd
    obtain ⟨hk, other⟩ := old k g hk hg
    change (l.hooks.set i { h with closing := true })[j]? = some c at hj
    rw [getElem?_set_of_some hi] at hj
    split_ifs at hj
    · obtain rfl := Option.some.inj hj
      exact absurd fd.symm other
    · exact T.stale j k c g hj hk hc hg fd

/-- A deletion, where the hook that is found is that of the registration, if there is one. -/
theorem del (T : Table l live)
    (fits : ∀ i c, looperFind l fd = some (i, c) → c.closing = true → live fd = none) :
    Table (looperDel l fd) (Function.update live fd none) := by
  unfold looperDel
  cases find : looperFind l fd with
  | none => rwa [Function.update_eq_self_iff.mpr (T.dead_of_find_none find).symm]
  | some p =>
    obtain ⟨i, h⟩ := p
    obtain ⟨hi, rfl, -⟩ := looperFind_some find
    dsimp only
    cases closing : h.closing with
    | false => exact T.close hi closing
    | true =>
      have dead := fits i h find closing
      have gone : epollDel l.epoll h.fd = l.epoll :=
        Function.update_eq_self_iff.mpr (T.dead h.fd dead).symm
      rw [gone, Function.update_eq_self_iff.mpr dead.symm]
      exact T.set_closed hi closing rfl rfl

theorem push (T : Table l live) (dead : live fd = none) (id : Nat) :
    Table (looperPush l fd id) (Function.update live fd (some ⟨id, 0⟩)) := by
  have epoll : (looperPush l fd id).epoll =
      Function.update l.epoll fd (some ⟨0, ⟨l.array, l.hooks.length⟩⟩) := by
    rw [looperPush, epollAdd, T.dead fd dead]
  have hooks : ∀ (j : Nat) (g : Hook), (looperPush l fd id).hooks[j]? = some g →
      l.hooks[j]? = some g ∨ j = l.hooks.length ∧ g = Hook.new fd id := by
    intro j g hj
    change (l.hooks ++ [Hook.new fd id])[j]? = some g at hj
    rw [List.getElem?_append, List.getElem?_singleton] at hj
    split_ifs at hj with old last
    · exact Or.inl hj
    · exact Or.inr ⟨by omega, (Option.some.inj hj).symm⟩
  have kept : ∀ (j : Nat) (g : Hook), l.hooks[j]? = some g →
      (looperPush l fd id).hooks[j]? = some g := by
    intro j g hj
    exact (List.getElem?_append_left (List.getElem?_eq_some_iff.mp hj).1).trans hj
  refine ⟨?_, ?_, ?_, ?_⟩
  · intro j g hj hg
    rw [epoll]
    cases hooks j g hj with
    | inl hj =>
      obtain ⟨r, hr, fields⟩ := T.hook j g hj hg
      have other : g.fd ≠ fd := by
        intro same
        rw [same, dead] at hr
        cases hr
      rw [Function.update_of_ne other, Function.update_of_ne other]
      exact ⟨r, hr, fields⟩
    | inr new =>
      obtain ⟨rfl, rfl⟩ := new
      exact ⟨_, Function.update_self .., rfl, rfl, Function.update_self ..⟩
  · intro fd' r hr
    by_cases same : fd' = fd
    · refine ⟨l.hooks.length, Hook.new fd id, ?_, same.symm, rfl⟩
      exact List.getElem?_concat_length
    · rw [Function.update_of_ne same] at hr
      obtain ⟨j, g, hj, fields⟩ := T.found fd' r hr
      exact ⟨j, g, kept j g hj, fields⟩
  · intro fd' dead'
    obtain ⟨other, dead'⟩ := (update_eq_iff_of_ne (Option.some_ne_none _) fd').mp dead'
    rw [epoll, Function.update_of_ne other]
    exact T.dead fd' dead'
  · intro j k c g hj hk hc hg same
    cases hooks j c hj with
    | inr new =>
      obtain ⟨-, rfl⟩ := new
      cases hc
    | inl hj =>
      cases hooks k g hk with
      | inl hk => exact T.stale j k c g hj hk hc hg same
      | inr new =>
        obtain ⟨rfl, rfl⟩ := new
        exact ⟨(List.getElem?_eq_some_iff.mp hj).1, rfl⟩

/-- All entries of epoll lead to the hook with their descriptor that stands last. -/
theorem foldl_mod_apply {α : Type*} (key : α → Nat) (entry : α → Entry) (as : List α) (ep : Epoll)
    (fd : Nat) :
    (as.foldl (fun ep a => epollMod ep (key a) (entry a)) ep) fd =
      (ep fd).map fun e => ((latest key fd as).map entry).getD e := by
  induction as generalizing ep with
  | nil =>
    rw [List.foldl_nil, latest_nil, Option.map_none]
    cases ep fd <;> rfl
  | cons a as ih =>
    rw [List.foldl_cons, ih, epollMod_apply, ← List.singleton_append, latest_append]
    cases behind : latest key fd as with
    | some b =>
      split_ifs with same
      · subst same
        cases ep (key a) <;> rfl
      · rfl
    | none =>
      have front : latest key fd [a] = if key a = fd then some a else none := by
        simp [latest]
      rw [front]
      split_ifs with same other other
      · subst same
        cases ep (key a) <;> rfl
      · exact absurd same.symm other
      · exact absurd other.symm same
      · rfl

theorem grow_epoll (l : Looper) (fd : Nat) :
    (looperGrow l).epoll fd = (l.epoll fd).map fun e =>
      ((latest (fun p : Hook × Nat => p.1.fd) fd l.hooks.zipIdx).map fun p =>
        (⟨p.1.wanted, ⟨l.array + 1, p.2⟩⟩ : Entry)).getD e := foldl_mod_apply _ _ _ _ _

theorem grow (T : Table l live) : Table (looperGrow l) live := by
  have epoll : ∀ (i : Nat) (h : Hook), l.hooks[i]? = some h → h.closing = false →
      (looperGrow l).epoll h.fd = some ⟨h.wanted, ⟨l.array + 1, i⟩⟩ := by
    intro i h hi open_
    obtain ⟨r, -, -, -, entry⟩ := T.hook i h hi open_
    have last : latest (fun p : Hook × Nat => p.1.fd) h.fd l.hooks.zipIdx = some (h, i) := by
      have at_ : l.hooks.zipIdx[i]? = some (h, i) := by
        rw [List.getElem?_zipIdx, hi, Option.map_some, Nat.zero_add]
      apply latest_of_getElem at_ rfl
      intro j p hj same
      rw [List.getElem?_zipIdx] at hj
      obtain ⟨g, hg, rfl⟩ := Option.map_eq_some_iff.mp hj
      cases closing : g.closing with
      | true => exact Nat.le_of_lt (T.stale j i g h hg hi closing open_ same).1
      | false => exact Nat.le_of_eq (T.unique hg hi closing open_ same)
    rw [grow_epoll, entry, last]
    rfl
  refine ⟨?_, T.found, ?_, T.stale⟩
  · intro i h hi open_
    obtain ⟨r, hr, user, wanted, -⟩ := T.hook i h hi open_
    exact ⟨r, hr, user, wanted, epoll i h hi open_⟩
  · intro fd dead
    rw [grow_epoll, T.dead fd dead]
    rfl

theorem add (T : Table l live) (dead : live fd = none) (id : Nat) :
    Table (looperAdd l fd id) (Function.update live fd (some ⟨id, 0⟩)) := by
  unfold looperAdd
  split_ifs
  · exact T.grow.push dead id
  · exact T.push dead id

/-- An event marks the hook of its descriptor. -/
theorem mark_eq (T : Table l live) (ev : Events) (there : (l.epoll fd).isSome = true) :
    ∃ i h, l.hooks[i]? = some h ∧ h.fd = fd ∧ h.closing = false ∧
      mark l (fd, ev) =
        { l with hooks := l.hooks.set i { h with pending := true, closing := false, events := ev } } := by
  obtain ⟨r, hr⟩ := T.live_of_epoll there
  obtain ⟨i, h, hi, rfl, open_⟩ := T.found fd r hr
  obtain ⟨_, -, -, -, entry⟩ := T.hook i h hi open_
  refine ⟨i, h, hi, rfl, open_, ?_⟩
  unfold mark
  rw [entry]
  dsimp only
  rw [if_pos rfl, modify_eq_set hi]

/-- A change of the mask that is to add events. A closed hook that is found first takes them away
from the registration. -/
theorem enable (T : Table l live) {events : Events}
    (fits : ∀ i c, looperFind l fd = some (i, c) → c.closing = true → (live fd).isSome = true →
      events = 0) :
    Table (looperEnable l fd events)
      (Function.update live fd
        ((live fd).map fun r => { r with wanted := r.wanted ||| events })) := by
  apply T.change
  · intro w unchanged
    exact or_eq_left (Classical.not_not.mp unchanged)
  · intro i c find closing there
    obtain rfl := fits i c find closing there
    simp

theorem disable (T : Table l live) {events : Events}
    (fits : ∀ i c, looperFind l fd = some (i, c) → c.closing = true → (live fd).isSome = true →
      events &&& c.wanted = 0) :
    Table (looperDisable l fd events)
      (Function.update live fd
        ((live fd).map fun r => { r with wanted := r.wanted &&& ~~~events })) := by
  apply T.change
  · intro w unchanged
    exact and_not_eq_left (Classical.not_not.mp unchanged)
  · intro i c find closing there
    exact ⟨Classical.not_not.mpr (fits i c find closing there), BitVec.zero_and⟩

end Table

/-! The removal of closed hooks. -/

/-- The number of hooks that are not closed, which is what a sweep leaves. -/
def remaining (hooks : List Hook) : Nat := hooks.countP fun h => !h.closing

/-- The closed hook at `i` is overwritten and not moved: it stands at a place that remains, or right
behind them with a closed hook behind it. -/
def Dropped (hooks : List Hook) (i : Nat) : Prop :=
  i < remaining hooks ∨ i = remaining hooks ∧ ∃ g, hooks[i + 1]? = some g ∧ g.closing = true

/-- Below `n` no hook is closed, and a closed hook that is to be moved has a descriptor that epoll
does not have. -/
structure Swept (array : Nat) (hooks : List Hook) (ep : Epoll) (n : Nat) : Prop where
  passed : ∀ (i : Nat) (h : Hook), hooks[i]? = some h → i < n → h.closing = false
  entry : ∀ (i : Nat) (h : Hook), hooks[i]? = some h → h.closing = false →
    ep h.fd = some ⟨h.wanted, ⟨array, i⟩⟩
  behind : ∀ (i : Nat) (c : Hook), hooks[i]? = some c → c.closing = true →
    ep c.fd = none ∨ Dropped hooks i

/-- What a sweep of `hooks` leaves are those that were not closed, each with its entry. -/
structure Left (array : Nat) (hooks : List Hook) (ep : Epoll) (p : List Hook × Epoll) : Prop where
  mem : ∀ h, h ∈ p.1 ↔ h ∈ hooks ∧ h.closing = false
  entry : ∀ (i : Nat) (h : Hook), p.1[i]? = some h → p.2 h.fd = some ⟨h.wanted, ⟨array, i⟩⟩
  gone : ∀ fd, ep fd = none → p.2 fd = none

section

variable {array n : Nat} {hooks : List Hook} {ep : Epoll} {hook last : Hook}

theorem getElem?_fill (hi : hooks[n]? = some hook) (i : Nat) :
    (hooks.set n last).dropLast[i]? =
      if i < hooks.length - 1 then if n = i then some last else hooks[i]? else none := by
  rw [List.getElem?_dropLast, List.length_set, getElem?_set_of_some hi]

/-- The place of a closed hook is filled, so that as many open hooks remain. -/
theorem remaining_fill (hi : hooks[n]? = some hook) (closed : hook.closing = true)
    (hl : hooks.getLast? = some last) : remaining (hooks.set n last).dropLast = remaining hooks := by
  obtain ⟨bound, rfl⟩ := List.getElem?_eq_some_iff.mp hi
  have cut : (hooks.set n last).dropLast ++ [last] = hooks.set n last := by
    apply List.dropLast_append_getLast?
    rw [List.getLast?_eq_getElem?] at hl
    rw [List.getLast?_eq_getElem?, List.length_set, getElem?_set_of_some hi, hl]
    split_ifs <;> rfl
  have sum : remaining (hooks.set n last) =
      remaining (hooks.set n last).dropLast + remaining [last] := by
    conv_lhs => rw [← cut]
    exact List.countP_append
  have set : remaining (hooks.set n last) = remaining hooks + remaining [last] := by
    rw [remaining, List.countP_set bound, closed, remaining, remaining, List.countP_singleton]
    rfl
  omega

/-- One hook is closed, so less remain than there are. -/
theorem remaining_lt (hi : hooks[n]? = some hook) (closed : hook.closing = true) :
    remaining hooks < hooks.length := by
  apply Nat.lt_of_le_of_ne List.countP_le_length
  intro all
  have open_ := List.countP_eq_length.mp all hook (List.mem_of_getElem? hi)
  rw [closed] at open_
  cases open_

theorem remaining_opened (hi : hooks[n]? = some hook) (closed : hook.closing = true) :
    remaining (hooks.set n (Hook.new 0 0)) = remaining hooks + 1 := by
  obtain ⟨bound, rfl⟩ := List.getElem?_eq_some_iff.mp hi
  rw [remaining, List.countP_set bound, closed]
  rfl

/-- The last hook is not overwritten. -/
theorem not_dropped_last (hi : hooks[n]? = some hook) (closed : hook.closing = true) :
    ¬ Dropped hooks (hooks.length - 1) := by
  have less := remaining_lt hi closed
  intro dropped
  cases dropped with
  | inl before => omega
  | inr behind =>
    obtain ⟨-, g, hg, -⟩ := behind
    have bound := (List.getElem?_eq_some_iff.mp hg).1
    omega

namespace Swept

/-- epoll's entry of the last hook is moved with it, and no other entry. -/
theorem epoll_fill (S : Swept array hooks ep n) (hi : hooks[n]? = some hook)
    (closed : hook.closing = true) (hl : hooks.getLast? = some last) :
    (last.closing = true ∧ epollMod ep last.fd ⟨last.wanted, ⟨array, n⟩⟩ = ep) ∨
      (last.closing = false ∧ ∀ fd, epollMod ep last.fd ⟨last.wanted, ⟨array, n⟩⟩ fd =
        if fd = last.fd then some ⟨last.wanted, ⟨array, n⟩⟩ else ep fd) := by
  rw [List.getLast?_eq_getElem?] at hl
  cases closing : last.closing with
  | true =>
    refine Or.inl ⟨rfl, ?_⟩
    cases S.behind _ last hl closing with
    | inl gone => rw [epollMod, gone]
    | inr dropped => exact absurd dropped (not_dropped_last hi closed)
  | false =>
    refine Or.inr ⟨rfl, fun fd => ?_⟩
    rw [epollMod_apply, S.entry _ last hl closing]
    rfl

/-- A closed hook that stays at its place is overwritten later. -/
theorem dropped_fill (S : Swept array hooks ep n) (hi : hooks[n]? = some hook)
    (closed : hook.closing = true) (hl : hooks.getLast? = some last) {i : Nat} {c : Hook}
    (hc : hooks[i]? = some c) (closing : c.closing = true) (other : n ≠ i)
    (dropped : Dropped hooks i) : Dropped (hooks.set n last).dropLast i := by
  unfold Dropped
  rw [remaining_fill hi closed hl]
  cases dropped with
  | inl before => exact Or.inl before
  | inr behind =>
    obtain ⟨at_, g, hg, closing'⟩ := behind
    have front : n < i + 1 := by
      by_contra beyond
      rw [S.passed i c hc (by omega)] at closing
      cases closing
    -- `n`, `i` and `i + 1` are closed, and only `i` hooks are not.
    have opened : (hooks.set n (Hook.new 0 0))[i]? = some c := by
      rw [getElem?_set_of_some hi, if_neg other, hc]
    have opened' : ((hooks.set n (Hook.new 0 0)).set i (Hook.new 0 0))[i + 1]? = some g := by
      rw [getElem?_set_of_some opened, if_neg (Nat.ne_of_lt (Nat.lt_succ_self i)),
        getElem?_set_of_some hi, if_neg (Nat.ne_of_lt front), hg]
    have less := remaining_lt opened' closing'
    rw [remaining_opened opened closing, remaining_opened hi closed, List.length_set,
      List.length_set] at less
    have three : i + 1 < hooks.length - 1 := by omega
    exact Or.inr ⟨at_, g, by rw [getElem?_fill hi, if_pos three, if_neg (by omega), hg], closing'⟩

theorem fill (S : Swept array hooks ep n) (hi : hooks[n]? = some hook)
    (closed : hook.closing = true) (hl : hooks.getLast? = some last) :
    Swept array (hooks.set n last).dropLast (epollMod ep last.fd ⟨last.wanted, ⟨array, n⟩⟩) n := by
  have less := remaining_lt hi closed
  have moved := S.epoll_fill hi closed hl
  have at_ := hl
  rw [List.getLast?_eq_getElem?] at at_
  refine ⟨?_, ?_, ?_⟩
  · intro i h hj below
    rw [getElem?_fill hi] at hj
    split_ifs at hj with bound same
    · omega
    · exact S.passed i h hj below
  · intro i h hj open_
    rw [getElem?_fill hi] at hj
    split_ifs at hj with bound same
    · obtain rfl := Option.some.inj hj
      subst same
      cases moved with
      | inl closing => exact absurd closing.1 (by simp [open_])
      | inr entries => rw [entries.2, if_pos rfl]
    · have entry := S.entry i h hj open_
      cases moved with
      | inl closing => rw [closing.2, entry]
      | inr entries =>
        rw [entries.2, if_neg, entry]
        intro fd
        rw [fd, S.entry _ last at_ entries.1] at entry
        have index := congrArg (fun e => e.ptr.index) (Option.some.inj entry)
        change hooks.length - 1 = i at index
        omega
  · intro i c hj closing
    rw [getElem?_fill hi] at hj
    split_ifs at hj with bound same
    · obtain rfl := Option.some.inj hj
      cases moved with
      | inr entries => exact absurd closing (by simp [entries.1])
      | inl unmoved =>
        rw [unmoved.2]
        cases S.behind _ last at_ closing with
        | inl gone => exact Or.inl gone
        | inr dropped => exact absurd dropped (not_dropped_last hi closed)
    · cases S.behind i c hj closing with
      | inr dropped => exact Or.inr (S.dropped_fill hi closed hl hj closing same dropped)
      | inl gone =>
        left
        rw [epollMod_apply, gone]
        split_ifs with fd
        · rw [← fd, gone]
          rfl
        · rfl

/-- Only closed hooks are dropped. -/
theorem mem_fill (hi : hooks[n]? = some hook) (closed : hook.closing = true)
    (hl : hooks.getLast? = some last) {h : Hook} (mem : h ∈ hooks) (open_ : h.closing = false) :
    h ∈ (hooks.set n last).dropLast := by
  obtain ⟨i, hj⟩ := List.mem_iff_getElem?.mp mem
  have other : n ≠ i := index_ne_of_ne hi hj fun same => by simp [← same, closed] at open_
  have bounds : n < hooks.length ∧ i < hooks.length :=
    ⟨(List.getElem?_eq_some_iff.mp hi).1, (List.getElem?_eq_some_iff.mp hj).1⟩
  by_cases front : i < hooks.length - 1
  · apply List.mem_iff_getElem?.mpr
    exact ⟨i, by rw [getElem?_fill hi, if_pos front, if_neg other, hj]⟩
  · have back : i = hooks.length - 1 := by omega
    rw [List.getLast?_eq_getElem?, ← back, hj] at hl
    obtain rfl := Option.some.inj hl
    apply List.mem_iff_getElem?.mpr
    exact ⟨n, by rw [getElem?_fill hi, if_pos (by omega), if_pos rfl]⟩

theorem of_mem_fill (hl : hooks.getLast? = some last) {h : Hook}
    (mem : h ∈ (hooks.set n last).dropLast) : h ∈ hooks := by
  cases List.mem_or_eq_of_mem_set (List.dropLast_subset _ mem) with
  | inl old => exact old
  | inr new => exact new ▸ List.mem_of_getLast? hl

theorem done (S : Swept array hooks ep n) (all : hooks.length ≤ n) : Left array hooks ep (hooks, ep) := by
  have open_ : ∀ (i : Nat) (h : Hook), hooks[i]? = some h → h.closing = false := by
    intro i h hi
    exact S.passed i h hi (Nat.lt_of_lt_of_le (List.getElem?_eq_some_iff.mp hi).1 all)
  refine ⟨fun h => ⟨fun mem => ⟨mem, ?_⟩, And.left⟩, ?_, fun _ gone => gone⟩
  · obtain ⟨i, hi⟩ := List.mem_iff_getElem?.mp mem
    exact open_ i h hi
  · exact fun i h hi => S.entry i h hi (open_ i h hi)

theorem pass (S : Swept array hooks ep n) (hi : hooks[n]? = some hook)
    (open_ : hook.closing = false) : Swept array hooks ep (n + 1) where
  passed := by
    intro i h hj below
    by_cases same : i = n
    · subst same
      obtain rfl := Option.some.inj (hi.symm.trans hj)
      exact open_
    · exact S.passed i h hj (by omega)
  entry := S.entry
  behind := S.behind

theorem sweep {rounds : Nat} (S : Swept array hooks ep n) (enough : hooks.length - n ≤ rounds) :
    Left array hooks ep (EventLoop.sweep array rounds hooks ep n) := by
  induction rounds generalizing hooks ep n with
  | zero => exact S.done (by omega)
  | succ rounds ih =>
    unfold EventLoop.sweep
    cases hi : hooks[n]? with
    | none => exact S.done (List.getElem?_eq_none_iff.mp hi)
    | some hook =>
      have bound := (List.getElem?_eq_some_iff.mp hi).1
      cases hl : hooks.getLast? with
      | none =>
        rw [List.getLast?_eq_none_iff] at hl
        rw [hl] at bound
        cases bound
      | some last =>
        dsimp only
        cases closing : hook.closing with
        | false =>
          rw [if_neg Bool.false_ne_true]
          exact ih (S.pass hi closing) (by omega)
        | true =>
          rw [if_pos rfl]
          have shorter : (hooks.set n last).dropLast.length = hooks.length - 1 := by
            rw [List.length_dropLast, List.length_set]
          have rest := ih (S.fill hi closing hl) (by omega)
          refine ⟨fun h => ⟨fun mem => ?_, fun mem => ?_⟩, rest.entry, fun fd gone => ?_⟩
          · obtain ⟨mem, open_⟩ := (rest.mem h).mp mem
            exact ⟨of_mem_fill hl mem, open_⟩
          · exact (rest.mem h).mpr ⟨mem_fill hi closing hl mem.1 mem.2, mem.2⟩
          · apply rest.gone fd
            rw [epollMod_apply, gone]
            split_ifs with same
            · rw [← same, gone]
              rfl
            · rfl

end Swept

end

/-- A sweep, where each closed hook whose descriptor is live is overwritten. -/
theorem Table.sweep (T : Table l live)
    (dropped : ∀ (i : Nat) (c : Hook), l.hooks[i]? = some c → c.closing = true →
      (live c.fd).isSome = true → Dropped l.hooks i) :
    Table (looperSweep l) live ∧
      ∀ h, h ∈ (looperSweep l).hooks ↔ h ∈ l.hooks ∧ h.closing = false := by
  have start : Swept l.array l.hooks l.epoll 0 := by
    refine ⟨?_, ?_, ?_⟩
    · intro i h hi below
      cases below
    · intro i h hi open_
      obtain ⟨r, -, -, -, entry⟩ := T.hook i h hi open_
      exact entry
    · intro i c hi closing
      cases hr : live c.fd with
      | none => exact Or.inl (T.dead c.fd hr)
      | some r => exact Or.inr (dropped i c hi closing (by rw [hr]; rfl))
  have left := start.sweep (Nat.le_refl _)
  have open_ : ∀ (i : Nat) (h : Hook), (looperSweep l).hooks[i]? = some h →
      h ∈ l.hooks ∧ h.closing = false := fun i h hi => (left.mem h).mp (List.mem_of_getElem? hi)
  refine ⟨⟨?_, ?_, ?_, ?_⟩, left.mem⟩
  · intro i h hi _
    obtain ⟨mem, hh⟩ := open_ i h hi
    obtain ⟨j, hj⟩ := List.mem_iff_getElem?.mp mem
    obtain ⟨r, hr, user, wanted, -⟩ := T.hook j h hj hh
    exact ⟨r, hr, user, wanted, left.entry i h hi⟩
  · intro fd r hr
    obtain ⟨j, h, hj, at_, hh⟩ := T.found fd r hr
    obtain ⟨i, hi⟩ := List.mem_iff_getElem?.mp ((left.mem h).mpr ⟨List.mem_of_getElem? hj, hh⟩)
    exact ⟨i, h, hi, at_, hh⟩
  · exact fun fd dead => left.gone fd (T.dead fd dead)
  · intro i j c h hi hj closing
    obtain ⟨-, hc⟩ := open_ i c hi
    rw [closing] at hc
    cases hc

end Anbox.Qemud.EventLoop
