import Anbox.Qemud.HookTable

namespace Anbox.Qemud.EventLoop

open Anbox.Framework

/-! What the calls and the rounds meet. -/

/-- The hook `i` is one that the scan still comes to. -/
def Phase.Ahead (i : Nat) : Phase → Prop
  | .waiting => False
  | .scanning n => n ≤ i
  | .running n => n < i

/-- What is to be delivered is marked, at a hook the scan still comes to. -/
structure Marks (hooks : List Hook) (phase : Phase) (live : Nat → Option Registration)
    (due : Nat → Option Events) : Prop where
  ahead : ∀ (i : Nat) (h : Hook), hooks[i]? = some h → h.pending = true → phase.Ahead i
  given : ∀ h ∈ hooks, h.closing = false → due h.fd = if h.pending = true then some h.events else none
  dead : ∀ fd, live fd = none → due fd = none

structure Inv (s : State) : Prop where
  table : Table s.looper s.live
  marks : Marks s.looper.hooks s.phase s.live s.due

/-- The condition on a step. Calls do not come upon a closed hook whose descriptor has been added
again, none is closed before its events are delivered, and at the end of a round no such closed hook
is moved. -/
def Proper (s : State) : Action → Prop
  | .add _ | .wait _ | .return => True
  | .del fd => ∀ i c, looperFind s.looper fd = some (i, c) → c.closing = true → s.live fd = none
  | .enable fd events => ∀ i c, looperFind s.looper fd = some (i, c) → c.closing = true →
      (s.live fd).isSome = true → events = 0
  | .disable fd events => ∀ i c, looperFind s.looper fd = some (i, c) → c.closing = true →
      (s.live fd).isSome = true → events &&& c.wanted = 0
  | .scan => ∀ n, s.phase = .scanning n →
      (∀ h, s.looper.hooks[n]? = some h → h.pending = true → h.closing = false) ∧
      (s.looper.hooks[n]? = none → ∀ (i : Nat) (c : Hook), s.looper.hooks[i]? = some c →
        c.closing = true → (s.live c.fd).isSome = true → Dropped s.looper.hooks i)

variable {s t : State} {hooks : List Hook} {phase phase' : Phase} {live : Nat → Option Registration}
  {due : Nat → Option Events} {fd n : Nat} {l : Looper}

/-! What single operations do to the marks. -/

namespace Marks

/-- A hook may be replaced by one that differs in its mask only. -/
theorem set (M : Marks hooks phase live due) {i : Nat} {h h' : Hook} (hi : hooks[i]? = some h)
    (same : h'.fd = h.fd) (pending : h'.pending = h.pending) (events : h'.events = h.events)
    (closing : h'.closing = false → h.closing = false) :
    Marks (hooks.set i h') phase live due where
  ahead := by
    intro j g hj marked
    rw [getElem?_set_of_some hi] at hj
    split_ifs at hj with at_
    · obtain rfl := Option.some.inj hj
      exact at_ ▸ M.ahead i h hi (pending ▸ marked)
    · exact M.ahead j g hj marked
  given := by
    intro g mem open_
    cases List.mem_or_eq_of_mem_set mem with
    | inl old => exact M.given g old open_
    | inr new =>
      subst new
      rw [same, pending, events]
      exact M.given h (List.mem_of_getElem? hi) (closing open_)
  dead := M.dead

theorem change (M : Marks l.hooks phase live due) (fd : Nat) (changes : Events → Prop)
    [DecidablePred changes] (f : Events → Events) :
    Marks (changeWanted l fd changes f).hooks phase live due := by
  unfold changeWanted
  cases find : looperFind l fd with
  | none => exact M
  | some p =>
    obtain ⟨hi, -, -⟩ := looperFind_some find
    dsimp only
    split_ifs
    · exact M.set hi rfl rfl rfl id
    · exact M

/-- Only what is dead or live counts. -/
theorem update_live (M : Marks hooks phase live due) (f : Registration → Registration) (fd : Nat) :
    Marks hooks phase (Function.update live fd ((live fd).map f)) due where
  ahead := M.ahead
  given := M.given
  dead := by
    intro fd' dead
    by_cases same : fd' = fd
    · subst same
      rw [Function.update_self, Option.map_eq_none_iff] at dead
      exact M.dead fd' dead
    · rw [Function.update_of_ne same] at dead
      exact M.dead fd' dead

theorem del (M : Marks l.hooks phase live due)
    (T : Table (looperDel l fd) (Function.update live fd none)) :
    Marks (looperDel l fd).hooks phase (Function.update live fd none)
      (Function.update due fd none) := by
  have old : Marks (looperDel l fd).hooks phase live due := by
    unfold looperDel
    cases find : looperFind l fd with
    | none => exact M
    | some p =>
      obtain ⟨hi, -, -⟩ := looperFind_some find
      exact M.set hi rfl rfl rfl fun open_ => by cases open_
  refine ⟨old.ahead, ?_, ?_⟩
  · intro h mem open_
    obtain ⟨i, hi⟩ := List.mem_iff_getElem?.mp mem
    obtain ⟨r, hr, -⟩ := T.hook i h hi open_
    obtain ⟨other, -⟩ := (update_eq_iff_of_ne (Option.some_ne_none r).symm h.fd).mp hr
    rw [Function.update_of_ne other]
    exact old.given h mem open_
  · intro fd' dead
    by_cases same : fd' = fd
    · rw [same, Function.update_self]
    · rw [Function.update_of_ne same] at dead ⊢
      exact M.dead fd' dead

theorem add (M : Marks l.hooks phase live due) (dead : live fd = none) (id : Nat) :
    Marks (looperAdd l fd id).hooks phase (Function.update live fd (some ⟨id, 0⟩)) due := by
  have hooks : (looperAdd l fd id).hooks = l.hooks ++ [Hook.new fd id] := by
    unfold looperAdd
    split_ifs <;> rfl
  rw [hooks]
  refine ⟨?_, ?_, ?_⟩
  · intro i h hi marked
    rw [List.getElem?_append, List.getElem?_singleton] at hi
    split_ifs at hi
    · exact M.ahead i h hi marked
    · obtain rfl := Option.some.inj hi
      cases marked
  · intro h mem open_
    cases List.mem_append.mp mem with
    | inl old => exact M.given h old open_
    | inr new =>
      obtain rfl := List.mem_singleton.mp new
      exact M.dead fd dead
  · intro fd' dead'
    exact M.dead fd' ((update_eq_iff_of_ne (Option.some_ne_none _) fd').mp dead').2

/-- The hook of a descriptor is given what is due. -/
theorem deliver (M : Marks l.hooks phase live due) (T : Table l live) {i : Nat} {h : Hook}
    (hi : l.hooks[i]? = some h) (open_ : h.closing = false) (h' : Hook) (same : h'.fd = h.fd)
    (ahead : h'.pending = true → phase.Ahead i) {d : Option Events}
    (due_ : d = if h'.pending = true then some h'.events else none) :
    Marks (l.hooks.set i h') phase live (Function.update due h.fd d) where
  ahead := by
    intro j g hj marked
    rw [getElem?_set_of_some hi] at hj
    split_ifs at hj with at_
    · obtain rfl := Option.some.inj hj
      exact at_ ▸ ahead marked
    · exact M.ahead j g hj marked
  given := by
    intro g mem hg
    obtain ⟨j, hj⟩ := List.mem_iff_getElem?.mp mem
    rw [getElem?_set_of_some hi] at hj
    split_ifs at hj with at_
    · obtain rfl := Option.some.inj hj
      rw [same, Function.update_self, due_]
    · have other : g.fd ≠ h.fd := fun fds => at_ (T.unique hj hi hg open_ fds).symm
      rw [Function.update_of_ne other]
      exact M.given g (List.mem_of_getElem? hj) hg
  dead := by
    intro fd dead
    obtain ⟨r, hr, -⟩ := T.hook i h hi open_
    have other : fd ≠ h.fd := by
      rintro rfl
      rw [dead] at hr
      cases hr
    rw [Function.update_of_ne other]
    exact M.dead fd dead

/-- The scan goes on, as no mark is left behind. -/
theorem advance (M : Marks hooks phase live due)
    (next : ∀ (i : Nat) (h : Hook), hooks[i]? = some h → h.pending = true → phase.Ahead i →
      phase'.Ahead i) : Marks hooks phase' live due where
  ahead := fun i h hi marked => next i h hi marked (M.ahead i h hi marked)
  given := M.given
  dead := M.dead

end Marks

theorem mark_epoll (l : Looper) (e : Nat × Events) : (mark l e).epoll = l.epoll := by
  unfold mark
  split
  · rfl
  · split_ifs <;> rfl

/-- All that epoll returns is marked and due. -/
theorem marks_ready (ready : List (Nat × Events))
    (there : ∀ e ∈ ready, (l.epoll e.1).isSome = true) (T : Table l live)
    (M : Marks l.hooks (.scanning 0) live due) :
    Table (ready.foldl mark l) live ∧ Marks (ready.foldl mark l).hooks (.scanning 0) live
      (overwrite Prod.fst Prod.snd due ready) := by
  induction ready generalizing l due with
  | nil => exact ⟨T, M⟩
  | cons e ready ih =>
    obtain ⟨i, h, hi, fd, open_, marked⟩ := T.mark_eq e.2 (there e List.mem_cons_self)
    have T' : Table (mark l e) live := by
      rw [marked]
      exact T.set_marked hi rfl open_.symm rfl rfl
    have M' : Marks (mark l e).hooks (.scanning 0) live (Function.update due e.1 (some e.2)) := by
      rw [marked, ← fd]
      exact M.deliver T hi open_ { h with pending := true, closing := false, events := e.2 } rfl
        (fun _ => Nat.zero_le i) rfl
    apply ih _ T' M'
    intro e' mem
    rw [mark_epoll]
    exact there e' (List.mem_cons_of_mem e mem)

/-! Steps. -/

theorem init_inv : Inv init where
  table := Table.init
  marks := ⟨fun _ _ hi => (by cases hi), fun _ mem => (by cases mem), fun _ _ => rfl⟩

theorem Inv.scan (I : Inv s) (at_ : s.phase = .scanning n) (proper : Proper s .scan) :
    Inv (s.scan n) := by
  obtain ⟨open_, behind⟩ := proper n at_
  have M := I.marks
  rw [at_] at M
  unfold State.scan
  cases hi : s.looper.hooks[n]? with
  | none =>
    obtain ⟨T, mem⟩ := I.table.sweep (behind hi)
    refine ⟨T, ?_, ?_, M.dead⟩
    · intro i h hi' marked
      have old := ((mem h).mp (List.mem_of_getElem? hi')).1
      obtain ⟨j, hj⟩ := List.mem_iff_getElem?.mp old
      have bound := (List.getElem?_eq_some_iff.mp hj).1
      have ahead : n ≤ j := M.ahead j h hj marked
      have all := List.getElem?_eq_none_iff.mp hi
      omega
    · intro h there hh
      exact M.given h ((mem h).mp there).1 hh
  | some h =>
    dsimp only
    cases pending : h.pending with
    | true =>
      rw [if_pos rfl]
      have hh := open_ h hi pending
      refine ⟨I.table.set_marked hi rfl rfl rfl rfl, ?_⟩
      have given := M.deliver I.table hi hh { h with pending := false } rfl
        (fun marked => by cases marked) rfl
      apply given.advance
      intro i g hg marked ahead
      rw [getElem?_set_of_some hi] at hg
      split_ifs at hg with same
      · obtain rfl := Option.some.inj hg
        cases marked
      · exact Nat.lt_of_le_of_ne ahead same
    | false =>
      rw [if_neg Bool.false_ne_true]
      refine ⟨I.table, M.advance fun i g hg marked ahead => Nat.lt_of_le_of_ne ahead ?_⟩
      rintro rfl
      obtain rfl := Option.some.inj (hi.symm.trans hg)
      rw [pending] at marked
      cases marked

theorem step_inv (s : State) (a : Action) (t : State) (I : Inv s) (proper : Proper s a)
    (h : step s a = some t) : Inv t := by
  cases a with
  | add fd =>
    obtain ⟨⟨-, dead⟩, same⟩ := Option.ite_none_right_eq_some.mp h
    obtain rfl := Option.some.inj same
    exact ⟨I.table.add dead s.added, I.marks.add dead s.added⟩
  | del fd =>
    obtain ⟨-, same⟩ := Option.ite_none_right_eq_some.mp h
    obtain rfl := Option.some.inj same
    have T := I.table.del proper
    exact ⟨T, I.marks.del T⟩
  | enable fd events =>
    obtain ⟨-, same⟩ := Option.ite_none_right_eq_some.mp h
    obtain rfl := Option.some.inj same
    exact ⟨I.table.enable proper, (I.marks.change fd _ _).update_live _ fd⟩
  | disable fd events =>
    obtain ⟨-, same⟩ := Option.ite_none_right_eq_some.mp h
    obtain rfl := Option.some.inj same
    exact ⟨I.table.disable proper, (I.marks.change fd _ _).update_live _ fd⟩
  | wait ready =>
    obtain ⟨⟨at_, -, -, there⟩, same⟩ := Option.ite_none_right_eq_some.mp h
    obtain rfl := Option.some.inj same
    have M : Marks s.looper.hooks (.scanning 0) s.live s.due :=
      I.marks.advance fun i _ _ _ _ => Nat.zero_le i
    obtain ⟨T', M'⟩ := marks_ready ready there I.table M
    exact ⟨T', M'⟩
  | scan =>
    simp only [step] at h
    split at h
    · case _ n at_ =>
      obtain rfl := Option.some.inj h
      exact I.scan at_ proper
    all_goals cases h
  | «return» =>
    simp only [step] at h
    split at h
    · case _ n at_ =>
      obtain rfl := Option.some.inj h
      refine ⟨I.table, I.marks.advance fun i _ _ _ ahead => ?_⟩
      rw [at_] at ahead
      exact ahead
    all_goals cases h

/-! What the invariant says. -/

theorem Inv.sound (I : Inv s) : Sound s where
  hooked := fun _ _ hr => I.table.hooked hr
  others := by
    intro h mem open_
    obtain ⟨i, hi⟩ := List.mem_iff_getElem?.mp mem
    obtain ⟨r, hr, -⟩ := I.table.hook i h hi open_
    rw [hr]
    rfl
  delivered := by
    intro at_ fd
    cases hr : s.live fd with
    | none => exact I.marks.dead fd hr
    | some r =>
      obtain ⟨i, h, hi, rfl, open_⟩ := I.table.found fd r hr
      rw [I.marks.given h (List.mem_of_getElem? hi) open_, if_neg]
      intro marked
      have ahead := I.marks.ahead i h hi marked
      rw [at_] at ahead
      exact ahead

theorem Inv.calls_live (I : Inv s) (at_ : s.phase = .scanning n) (proper : Proper s .scan) :
    CallsLive s n := by
  intro h hi pending
  have open_ := (proper n at_).1 h hi pending
  obtain ⟨r, hr, user, -⟩ := I.table.hook n h hi open_
  refine ⟨⟨r, hr, user.symm⟩, ?_⟩
  rw [I.marks.given h (List.mem_of_getElem? hi) open_, if_pos pending]

/-- In every run whose steps are proper, no callback runs for a hook that was deleted, each live
descriptor has its one hook, monitored as is wanted, and what epoll returns is delivered in its round. -/
theorem looper_serves_live (as : List Action) (proper : Along step Proper init as) :
    Sound init ∧ Along step Keeps init as := by
  refine ⟨init_inv.sound, ?_⟩
  apply proper.implies step_inv _ init_inv
  intro s a t I ha ht u hu
  refine ⟨(step_inv s a u I ha hu).sound, ?_⟩
  rintro rfl n at_
  exact I.calls_live at_ ha

/-- A callback deletes its own descriptor. -/
def oneServed : List Action :=
  [.add 3, .enable 3 1, .wait [(3, 1)], .scan, .del 3, .return, .scan]

theorem one_served_live : Sound init ∧ Along step Keeps init oneServed := by
  apply looper_serves_live
  apply along_cons rfl trivial
  apply along_cons rfl (fun i c find closing => by cases find; cases closing)
  apply along_cons rfl trivial
  apply along_cons rfl (fun n at_ => by
    cases at_
    exact ⟨fun h hi _ => by cases hi; rfl, fun none => by cases none⟩)
  apply along_cons rfl (fun i c find closing => by cases find; cases closing)
  apply along_cons rfl trivial
  refine along_cons rfl ?_ trivial
  intro n at_
  cases at_
  refine ⟨fun h hi _ => (by cases hi), fun _ i c hi _ there => ?_⟩
  cases i with
  | zero =>
    cases hi
    cases there
  | succ i => cases hi

/-- The callback of one descriptor deletes another, whose events are due in the same round. -/
def oneDeleted : List Action :=
  [.add 3, .add 4, .enable 3 1, .enable 4 1, .wait [(3, 1), (4, 1)], .scan, .del 4, .return, .scan]

theorem deleted_hook_called : ¬ ∀ as : List Action, Sound init ∧ Along step Keeps init as := by
  intro h
  have keeps := along_iff_cut.mp (h oneDeleted).2 (oneDeleted.take 8) .scan [] _ _ rfl rfl rfl
  have calls := (keeps _ rfl).2 rfl 1 rfl _ rfl rfl
  obtain ⟨r, hr, -⟩ := calls.1
  cases hr

end Anbox.Qemud.EventLoop
