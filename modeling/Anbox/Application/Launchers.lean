import Mathlib.Data.List.TakeDrop
import Anbox.Application.Database
import Anbox.Application.LauncherStorage
import Anbox.Framework.Mirror
import Anbox.Framework.Run

namespace Anbox.Application.Launchers

open Anbox.Framework
open LauncherStorage

/-- The database with the directory of its launchers. The code has neither of the last two: which icon
was stored with an item, and whether a store was asked for. -/
structure State where
  files : Files
  database : Database
  doneReset : Bool
  icons : String → List UInt8
  begun : Bool

/-- Nothing is known of the files that an earlier run has left. -/
def start (files : Files) : State where
  files := files
  database := ⟨fun _ => none⟩
  doneReset := false
  icons := fun _ => []
  begun := false

inductive Action where
  | storeOrUpdate (item : Item) (removed : Option (List Char → Bool)) (o : Outcome)
  | remove (item : Item) (desktop icon : Bool)

def Action.item : Action → Item
  | storeOrUpdate item _ _ => item
  | remove item _ _ => item

section

variable (path_ exePath : List Char)

/-- The directory is emptied when the first item is stored. -/
def firstReset (s : State) (removed : Option (List Char → Bool)) : Except Files Files :=
  if s.doneReset then .ok s.files else reset s.files removed

def storeOrUpdate (s : State) (item : Item) (removed : Option (List Char → Bool)) (o : Outcome) : State :=
  match firstReset s removed with
  | .error files => { s with files := files, begun := true }
  | .ok files =>
    match addOrUpdate path_ exePath files item o with
    | .error files => { s with files := files, doneReset := true, begun := true }
    | .ok files =>
      { files := files
        database := s.database.storeOrUpdate item
        doneReset := true
        icons := Function.update s.icons item.package item.icon
        begun := true }

def remove (s : State) (item : Item) (desktop icon : Bool) : State :=
  match s.database.items_ item.package with
  | none => s
  | some _ =>
    match LauncherStorage.remove s.files item desktop icon with
    | .error files => { s with files := files }
    | .ok files => { s with files := files, database := s.database.remove item }

def apply (s : State) : Action → State
  | .storeOrUpdate item removed o => storeOrUpdate path_ exePath s item removed o
  | .remove item desktop icon => remove s item desktop icon

def step (s : State) (a : Action) : Option State := some (apply path_ exePath s a)

/-- What the files of an item are to hold. -/
def content (item : Item) (icon : List UInt8) : Part → List UInt8
  | .desktop => bytes (desktopItem path_ exePath item)
  | .icon => icon

/-- The launchers of the items in the database. -/
def State.records (s : State) (package : String) : Option (Part → List UInt8) :=
  (s.database.items_ package).map fun item => content path_ exePath item (s.icons package)

def Mirrors (s : State) : Prop :=
  Mirror slot (fun name => startsWithAnbox name = true) (s.records path_ exePath) s.files

/-- From the first store on, the files are those of the items. -/
def Mirrored (s : State) : Prop := s.begun = true → Mirrors path_ exePath s

/-- The files of the other items stay as they are. -/
def Untouched (s : State) (a : Action) : Prop :=
  ∀ package, package ≠ a.item.package → s.database.items_ package ≠ none →
    ∀ part, (apply path_ exePath s a).files (slot package part) = s.files (slot package part)

/-- No other item has a name that comes to the same in the directory. -/
def Distinct (db : Database) (package : String) : Prop :=
  ∀ other, other ≠ package → db.items_ other ≠ none →
    cleanPackageName other.toList ≠ cleanPackageName package.toList

/-- A reset that fails leaves no file behind; a store that opens the desktop file opens the icon as well,
has all of both stored, and is of a package with file names of its own (or it does not open the icon,
and the desktop file was the same before); a removal that has removed the desktop file removes the
icon. -/
def Proper (s : State) : Action → Prop
  | .storeOrUpdate item removed o =>
    match if s.doneReset then none else removed with
    | some removed => ∀ name, startsWithAnbox name = true → s.files name ≠ none → removed name = true
    | none =>
      o.prepared = true →
        ∀ n, opened (fileForItem (cleanPackageName item.package.toList)) o.desktop = some n →
          match opened (fileForItemIcon (cleanPackageName item.package.toList)) o.icon with
          | none =>
            s.doneReset = true ∧
              s.files (slot item.package .desktop) = some ((bytes (desktopItem path_ exePath item)).take n)
          | some m =>
            (bytes (desktopItem path_ exePath item)).length ≤ n ∧ item.icon.length ≤ m ∧
              '\x00' ∉ item.package.toList ∧ Distinct s.database item.package
  | .remove item desktop icon => s.database.items_ item.package ≠ none → desktop = true → icon = true

/-! One step. -/

structure Inv (s : State) : Prop where
  mirrored : Mirrored path_ exePath s
  cleared : s.doneReset = false → ∀ package, s.database.items_ package = none
  begun : s.doneReset = true → s.begun = true

variable {path_ exePath} {s : State}

theorem records_eq_none {package : String} :
    s.records path_ exePath package = none ↔ s.database.items_ package = none := Option.map_eq_none_iff

theorem inv_start (files : Files) : Inv path_ exePath (start files) where
  mirrored := nofun
  cleared := fun _ _ => rfl
  begun := nofun

theorem records_stored (s : State) (files : Files) (item : Item) :
    State.records path_ exePath
        { files := files
          database := s.database.storeOrUpdate item
          doneReset := true
          icons := Function.update s.icons item.package item.icon
          begun := true } =
      Function.update (s.records path_ exePath) item.package (some (content path_ exePath item item.icon)) := by
  funext package
  by_cases same : package = item.package
  · subst same
    simp only [State.records, Database.storeOrUpdate, Function.update_self, Option.map_some]
    rfl
  · simp only [State.records, Database.storeOrUpdate, Function.update_of_ne same]

theorem records_removed (s : State) (files : Files) (item : Item) :
    State.records path_ exePath { s with files := files, database := s.database.remove item } =
      Function.update (s.records path_ exePath) item.package none := by
  funext package
  by_cases same : package = item.package
  · subst same
    simp only [State.records, Database.remove_items, Function.update_self, Option.map_none]
  · simp only [State.records, Database.remove_items, Function.update_of_ne same]

/-- A reset that does not fail leaves the directory alone later, and clears all of it at first. -/
theorem firstReset_ok {removed : Option (List Char → Bool)} {files : Files} (h : firstReset s removed = .ok files) :
    (s.doneReset = true ∧ files = s.files) ∨
      (s.doneReset = false ∧ removed = none ∧
        files = fun name => if startsWithAnbox name = true then none else s.files name) := by
  unfold firstReset at h
  split_ifs at h with ready
  · exact .inl ⟨ready, (Except.ok.inj h).symm⟩
  · cases removed with
    | some removed => cases h
    | none => exact .inr ⟨Bool.eq_false_iff.mpr ready, rfl, (Except.ok.inj h).symm⟩

/-- After a reset that does not fail the directory mirrors the database. -/
theorem firstReset_mirrors (inv : Inv path_ exePath s) {removed : Option (List Char → Bool)} {files : Files}
    (h : firstReset s removed = .ok files) :
    Mirror slot (fun name => startsWithAnbox name = true) (s.records path_ exePath) files := by
  obtain ⟨ready, rfl⟩ | ⟨ready, -, rfl⟩ := firstReset_ok h
  · exact inv.mirrored (inv.begun ready)
  · refine (mirror_empty_iff fun package => records_eq_none.mpr (inv.cleared ready package)).mpr ?_
    intro name hname
    exact if_pos hname

/-- The names of a package are its own if they differ from each other and from those of the others. -/
theorem own_iff {files : Files} (package : String)
    (mirror : Mirror slot (fun name => startsWithAnbox name = true) (s.records path_ exePath) files) :
    (Function.Injective (slot package) ∧ ∀ other, other ≠ package → s.records path_ exePath other ≠ none →
      ∀ part part', slot package part ≠ slot other part') ↔
    '\x00' ∉ package.toList ∧ Distinct s.database package := by
  rw [slot_injective_iff]
  refine and_congr_right fun plain => ?_
  have plain_of : ∀ {other}, s.database.items_ other ≠ none → '\x00' ∉ other.toList := by
    intro other there
    obtain ⟨item, hitem⟩ := Option.ne_none_iff_exists'.mp there
    have record : s.records path_ exePath other = some _ := congrArg (Option.map _) hitem
    exact slot_injective_iff.mp fun part part' same => (mirror.own record record same).2
  constructor
  · intro h other ne there same
    exact h other ne (mt records_eq_none.mp there) .desktop .desktop
      ((slot_eq_iff plain (plain_of there)).mpr ⟨same.symm, rfl⟩)
  · intro h other ne there part part' same
    have stored := mt records_eq_none.mpr there
    exact h other ne stored ((slot_eq_iff plain (plain_of stored)).mp same).1.symm

/-- The two files of a launcher are written, and the item is stored. -/
theorem written_iff {files : Files} {item : Item} {n m : Nat}
    (mirror : Mirror slot (fun name => startsWithAnbox name = true) (s.records path_ exePath) files) :
    Mirror slot (fun name => startsWithAnbox name = true)
        (Function.update (s.records path_ exePath) item.package
          (some (content path_ exePath item item.icon)))
        (Function.update (Function.update files (slot item.package .desktop)
          (some ((bytes (desktopItem path_ exePath item)).take n)))
          (slot item.package .icon) (some (item.icon.take m))) ↔
      (bytes (desktopItem path_ exePath item)).length ≤ n ∧ item.icon.length ≤ m ∧
        '\x00' ∉ item.package.toList ∧ Distinct s.database item.package := by
  have off : ∀ name, (∀ part, name ≠ slot item.package part) →
      Function.update (Function.update files (slot item.package .desktop)
        (some ((bytes (desktopItem path_ exePath item)).take n)))
        (slot item.package .icon) (some (item.icon.take m)) name = files name := by
    intro name away
    rw [Function.update_of_ne (away .icon), Function.update_of_ne (away .desktop)]
  rw [mirror.store_iff off, own_iff item.package mirror]
  constructor
  · intro h
    obtain ⟨whole, plain, distinct⟩ := h
    have differ : slot item.package .desktop ≠ slot item.package .icon :=
      fun same => absurd (slot_injective_iff.mpr plain same) (by decide)
    have desktop := whole .desktop
    have icon := whole .icon
    rw [Function.update_of_ne differ, Function.update_self] at desktop
    rw [Function.update_self] at icon
    exact ⟨(List.take_eq_self_iff _).mp (Option.some.inj desktop),
      (List.take_eq_self_iff _).mp (Option.some.inj icon), plain, distinct⟩
  · intro h
    obtain ⟨desktop, icon, plain, distinct⟩ := h
    have differ : slot item.package .desktop ≠ slot item.package .icon :=
      fun same => absurd (slot_injective_iff.mpr plain same) (by decide)
    refine ⟨?_, plain, distinct⟩
    intro part
    cases part with
    | desktop =>
      rw [Function.update_of_ne differ, Function.update_self, (List.take_eq_self_iff _).mpr desktop]
      rfl
    | icon =>
      rw [Function.update_self, (List.take_eq_self_iff _).mpr icon]
      rfl

/-- Only the desktop file is written, and the database stays as it is. -/
theorem half_written_iff {files : Files} {item : Item} {b : List UInt8}
    (mirror : Mirror slot (fun name => startsWithAnbox name = true) (s.records path_ exePath) files) :
    Mirror slot (fun name => startsWithAnbox name = true) (s.records path_ exePath)
        (Function.update files (slot item.package .desktop) (some b)) ↔
      files (slot item.package .desktop) = some b := by
  rw [mirror.unchanged_iff slot_startsWithAnbox]
  constructor
  · intro h
    have same := h _ (slot_startsWithAnbox item.package .desktop)
    rw [Function.update_self] at same
    exact same.symm
  · intro h name _
    rw [Function.update_eq_self_iff.mpr h.symm]

/-- What is behind a reset that does not fail. -/
theorem firstReset_files {removed : Option (List Char → Bool)} {files : Files}
    (h : firstReset s removed = .ok files) : (if s.doneReset then none else removed) = none ∧
      ∀ {name}, startsWithAnbox name = true → ∀ b, files name = some b ↔
        s.doneReset = true ∧ s.files name = some b := by
  obtain ⟨ready, rfl⟩ | ⟨ready, rfl, rfl⟩ := firstReset_ok h
  · rw [ready]
    exact ⟨rfl, fun _ b => by rw [and_iff_right rfl]⟩
  · rw [ready]
    refine ⟨rfl, fun hname b => iff_of_false ?_ nofun⟩
    dsimp only
    rw [if_pos hname]
    exact nofun

/-- A reset that fails leaves what was not removed. -/
theorem failed_reset_mirrors_iff (inv : Inv path_ exePath s) {removed : Option (List Char → Bool)}
    {files : Files} (h : firstReset s removed = .error files) :
    ∃ gone, (if s.doneReset then none else removed) = some gone ∧
      (Mirror slot (fun name => startsWithAnbox name = true) (s.records path_ exePath) files ↔
        ∀ name, startsWithAnbox name = true → s.files name ≠ none → gone name = true) := by
  cases ready : s.doneReset with
  | true =>
    rw [firstReset, ready] at h
    cases h
  | false =>
    rw [firstReset, ready] at h
    cases removed with
    | none => cases h
    | some gone =>
      obtain rfl := Except.error.inj h
      refine ⟨gone, rfl, ?_⟩
      refine (mirror_empty_iff fun package => records_eq_none.mpr (inv.cleared ready package)).trans ?_
      refine forall₂_congr fun name hname => ?_
      rw [hname, Bool.true_and]
      split_ifs with removed
      · exact iff_of_true rfl fun _ => removed
      · constructor
        · intro none there
          exact absurd none there
        · intro h
          by_contra there
          exact removed (h there)

/-- What is asked of the file that was opened. -/
theorem forall_opened_iff {prepared : Prop} {answer : Option Nat} {n : Nat} (ready : prepared)
    (given : answer = some n) (P : Nat → Prop) : P n ↔ (prepared → ∀ n', answer = some n' → P n') := by
  constructor
  · intro h _ n' hn'
    obtain rfl := Option.some.inj (given.symm.trans hn')
    exact h
  · intro h
    exact h ready n given

theorem stored_mirrored_iff (inv : Inv path_ exePath s) (item : Item)
    (removed : Option (List Char → Bool)) (o : Outcome) :
    Mirrored path_ exePath (storeOrUpdate path_ exePath s item removed o) ↔
      Proper path_ exePath s (.storeOrUpdate item removed o) := by
  unfold Proper storeOrUpdate
  cases reset : firstReset s removed with
  | error files =>
    obtain ⟨gone, failed, mirrors⟩ := failed_reset_mirrors_iff inv reset
    simp only [failed]
    exact (forall_prop_of_true rfl).trans mirrors
  | ok files =>
    have mirror := firstReset_mirrors inv reset
    obtain ⟨next, left⟩ := firstReset_files reset
    simp only [next]
    obtain ⟨closed, raised⟩ | ⟨ready, n, desktop, icon, raised⟩ | ⟨ready, n, m, desktop, icon, returned⟩ :=
      addOrUpdate_cases path_ exePath files item o
    · rw [raised]
      refine iff_of_true (fun _ => mirror) ?_
      intro ready n opened
      obtain no | no := closed
      · exact absurd (no.symm.trans ready) (by decide)
      · exact absurd (no.symm.trans opened) (by simp)
    · rw [raised]
      refine (forall_prop_of_true rfl).trans ((half_written_iff mirror).trans ?_)
      rw [left (slot_startsWithAnbox _ _), icon]
      exact forall_opened_iff ready desktop fun n => s.doneReset = true ∧
        s.files (slot item.package .desktop) = some ((bytes (desktopItem path_ exePath item)).take n)
    · rw [returned]
      refine (forall_prop_of_true rfl).trans ?_
      change Mirror _ _ (State.records path_ exePath { files := _, .. }) _ ↔ _
      rw [records_stored, written_iff mirror, icon]
      exact forall_opened_iff ready desktop fun n => (bytes (desktopItem path_ exePath item)).length ≤ n ∧
        item.icon.length ≤ m ∧ '\x00' ∉ item.package.toList ∧ Distinct s.database item.package

/-- Both files of an item are removed, and the item as well. -/
theorem erased_mirrors {item : Item} {kept : Part → List UInt8}
    (mirror : Mirrors path_ exePath s) (record : s.records path_ exePath item.package = some kept) :
    Mirror slot (fun name => startsWithAnbox name = true)
      (Function.update (s.records path_ exePath) item.package none)
      (Function.update (Function.update s.files (slot item.package .desktop) none)
        (slot item.package .icon) none) := by
  refine (Mirror.remove_iff mirror slot_startsWithAnbox record ?_).mpr ?_
  · intro name away
    rw [Function.update_of_ne (away .icon), Function.update_of_ne (away .desktop)]
  · intro part
    cases part with
    | icon => rw [Function.update_self]
    | desktop =>
      by_cases same : slot item.package .desktop = slot item.package .icon
      · rw [same, Function.update_self]
      · rw [Function.update_of_ne same, Function.update_self]

theorem removed_mirrored_iff (inv : Inv path_ exePath s) (item : Item) (desktop icon : Bool) :
    Mirrored path_ exePath (remove s item desktop icon) ↔
      Proper path_ exePath s (.remove item desktop icon) := by
  unfold Proper
  unfold remove
  cases hitem : s.database.items_ item.package with
  | none => exact iff_of_true inv.mirrored fun there => absurd hitem there
  | some kept =>
    have record : s.records path_ exePath item.package = some _ := congrArg (Option.map _) hitem
    have ready : s.doneReset = true := by
      by_contra no
      rw [inv.cleared (Bool.eq_false_iff.mpr no)] at hitem
      cases hitem
    have mirror := inv.mirrored (inv.begun ready)
    cases desktop with
    | false => exact iff_of_true inv.mirrored fun _ no => absurd no (by decide)
    | true =>
      cases icon with
      | false =>
        refine iff_of_false ?_ fun h => absurd (h (hitem ▸ Option.some_ne_none kept) rfl) (by decide)
        intro h
        have same := (mirror.unchanged_iff slot_startsWithAnbox).mp (h (inv.begun ready)) _
          (slot_startsWithAnbox item.package .desktop)
        change Function.update s.files (slot item.package .desktop) none (slot item.package .desktop) = _ at same
        rw [Function.update_self, mirror.content record] at same
        cases same
      | true =>
        refine iff_of_true ?_ fun _ _ => rfl
        intro _
        change Mirror _ _ (State.records path_ exePath { s with files := _, database := _ }) _
        rw [records_removed]
        exact erased_mirrors mirror record

theorem apply_mirrored_iff (inv : Inv path_ exePath s) (a : Action) :
    Mirrored path_ exePath (apply path_ exePath s a) ↔ Proper path_ exePath s a := by
  cases a with
  | storeOrUpdate item removed o => exact stored_mirrored_iff inv item removed o
  | remove item desktop icon => exact removed_mirrored_iff inv item desktop icon

/-- What a step does not do: a store that was asked for is not taken back, an item that is kept in
the database was stored after a reset, and the items of other packages stay. -/
theorem apply_frame (inv : Inv path_ exePath s) (a : Action) :
    (s.begun = true → (apply path_ exePath s a).begun = true) ∧
      ((apply path_ exePath s a).doneReset = false →
        ∀ package, (apply path_ exePath s a).database.items_ package = none) ∧
      ((apply path_ exePath s a).doneReset = true → (apply path_ exePath s a).begun = true) ∧
      ∀ package, package ≠ a.item.package →
        (apply path_ exePath s a).records path_ exePath package = s.records path_ exePath package := by
  cases a with
  | storeOrUpdate item removed o =>
    dsimp only [apply, storeOrUpdate]
    cases firstReset s removed with
    | error files => exact ⟨fun _ => rfl, inv.cleared, fun _ => rfl, fun _ _ => rfl⟩
    | ok files =>
      dsimp only
      cases addOrUpdate path_ exePath files item o with
      | error files => exact ⟨fun _ => rfl, nofun, fun _ => rfl, fun _ _ => rfl⟩
      | ok files =>
        refine ⟨fun _ => rfl, nofun, fun _ => rfl, fun package other => ?_⟩
        rw [records_stored]
        exact Function.update_of_ne other _ _
  | remove item desktop icon =>
    dsimp only [apply, remove]
    cases s.database.items_ item.package with
    | none => exact ⟨id, inv.cleared, inv.begun, fun _ _ => rfl⟩
    | some kept =>
      dsimp only
      cases LauncherStorage.remove s.files item desktop icon with
      | error files => exact ⟨id, inv.cleared, inv.begun, fun _ _ => rfl⟩
      | ok files =>
        refine ⟨id, fun ready package => ?_, inv.begun, fun package other => ?_⟩
        · change (s.database.remove item).items_ package = none
          rw [Database.remove_items, Function.update_apply, inv.cleared ready, ite_self]
        · rw [records_removed]
          exact Function.update_of_ne other _ _

theorem inv_apply (inv : Inv path_ exePath s) {a : Action} (proper : Proper path_ exePath s a) :
    Inv path_ exePath (apply path_ exePath s a) :=
  have frame := apply_frame inv a
  ⟨(apply_mirrored_iff inv a).mpr proper, frame.2.1, frame.2.2.1⟩

theorem untouched_of_proper (inv : Inv path_ exePath s) {a : Action} (proper : Proper path_ exePath s a) :
    Untouched path_ exePath s a := by
  intro package other there part
  obtain ⟨begun, -, -, same⟩ := apply_frame inv a
  have ready : s.doneReset = true := by
    by_contra no
    exact there (inv.cleared (Bool.eq_false_iff.mpr no) package)
  have before := inv.begun ready
  have after := (apply_mirrored_iff inv a).mpr proper (begun before)
  obtain ⟨f, hf⟩ := Option.ne_none_iff_exists'.mp (mt records_eq_none.mp there)
  exact (inv.mirrored before).kept after hf ((same package other).trans hf) part

end

/-! All runs. -/

/-- From the first store on the files are those of the items, and no step touches those of another
package, if and only if every step is proper. -/
theorem launchers_mirror_iff (path_ exePath : List Char) (files : Files) (as : List Action) :
    Always (step path_ exePath) (Mirrored path_ exePath) (start files) as ∧
        Along (step path_ exePath) (Untouched path_ exePath) (start files) as ↔
      Along (step path_ exePath) (Proper path_ exePath) (start files) as := by
  have keeps : ∀ s a t, Inv path_ exePath s → Proper path_ exePath s a →
      step path_ exePath s a = some t → Inv path_ exePath t := by
    intro s a t inv proper h
    obtain rfl := Option.some.inj h
    exact inv_apply inv proper
  have mirrored : Always (step path_ exePath) (Mirrored path_ exePath) (start files) as ↔
      Along (step path_ exePath) (Proper path_ exePath) (start files) as := by
    refine always_iff_along (fun s inv => inv.mirrored) keeps ?_ as (inv_start files)
    intro s a t inv h after
    obtain rfl := Option.some.inj h
    exact (apply_mirrored_iff inv a).mp after
  constructor
  · intro h
    exact mirrored.mp h.1
  · intro proper
    refine ⟨mirrored.mpr proper, proper.implies keeps ?_ (inv_start files)⟩
    intro s a t inv proper _
    exact untouched_of_proper inv proper

/-- Nothing goes wrong with the files. -/
def unharmed : Outcome := ⟨true, some 4096, some 4096⟩

/-- Two packages, the files of which have the same names. -/
def similar : List Action :=
  [.storeOrUpdate (.ofPackage "a.b") none unharmed, .storeOrUpdate (.ofPackage "a-b") none unharmed]

theorem package_overwritten : ¬ ∀ (path_ exePath : List Char) (files : Files) (as : List Action),
    Always (step path_ exePath) (Mirrored path_ exePath) (start files) as ∧
      Along (step path_ exePath) (Untouched path_ exePath) (start files) as := by
  intro h
  obtain ⟨always, -⟩ := h [] [] (fun _ => none) similar
  obtain ⟨s, hs⟩ : ∃ s, s = similar.foldl (apply [] []) (start fun _ => none) := ⟨_, rfl⟩
  have reached : run (step [] []) (start fun _ => none) similar = some s := hs ▸ rfl
  have first : (s.records [] [] "a.b").isSome = true := by
    rw [hs]
    decide
  have second : (s.records [] [] "a-b").isSome = true := by
    rw [hs]
    decide
  have begun : s.begun = true := by
    rw [hs]
    decide
  obtain ⟨f, hf⟩ := Option.isSome_iff_exists.mp first
  obtain ⟨f', hf'⟩ := Option.isSome_iff_exists.mp second
  have same : slot "a.b" .desktop = slot "a-b" .desktop := by decide
  exact absurd ((always.last reached begun).own hf hf' same).1 (by decide)

end Anbox.Application.Launchers
