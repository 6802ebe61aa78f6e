import Anbox.Android.PlatformService
import Anbox.Framework.Latest

namespace Anbox.Application

open Anbox.Android.PlatformService
open Anbox.Bridge.ApplicationList
open Anbox.Framework

/-- The items of the database by their packages, without the launchers that stand on the disk. What the
launcher storage raises there leaves the handling of the message, and is left out. -/
structure Database where
  items_ : String → Option Item

/-- The icon is left to the launcher. -/
def Item.kept (item : Item) : Item := { item with icon := [] }

namespace Database

@[ext] theorem ext {db db' : Database} (h : ∀ p, db.items_ p = db'.items_ p) : db = db' := by
  cases db
  cases db'
  exact congrArg mk (funext h)

def storeOrUpdate (db : Database) (item : Item) : Database :=
  ⟨Function.update db.items_ item.package (some item.kept)⟩

def remove (db : Database) (item : Item) : Database :=
  match db.items_ item.package with
  | none => db
  | some _ => ⟨Function.update db.items_ item.package none⟩

def apply (db : Database) : Operation → Database
  | .remove item => db.remove item
  | .storeOrUpdate item => db.storeOrUpdate item

/-- An update is sent over the bridge, and its event handled. -/
def handle (db : Database) (update : ApplicationListUpdate) : Database :=
  (handleApplicationListUpdateEvent
    (Bridge.ApplicationList.updateApplicationList update)).foldl apply db

/-- The database behind all messages that a parcel gives rise to. -/
def updated (m : Misreads) (db : Database) (parcel : Parcel) : Database :=
  (Android.PlatformService.updateApplicationList m parcel).foldl handle db

/-! What is to come of an update: packages without a name stand for nothing. -/

def minus (db : Database) (removed : List String) : Database :=
  ⟨fun p => if p ∈ removed ∧ p ≠ "" then none else db.items_ p⟩

def plus (db : Database) (items : List Item) : Database :=
  ⟨fun p => if p = "" then db.items_ p else ((latest Item.package p items).map Item.kept).or (db.items_ p)⟩

/-- The old database minus the removed packages plus the applications. -/
def expected (db : Database) (applications : List Application) (removed : List String) : Database :=
  (db.minus removed).plus (applications.map Application.item)

/-! The operations. -/

theorem remove_items (db : Database) (item : Item) :
    (db.remove item).items_ = Function.update db.items_ item.package none := by
  unfold remove
  split
  · rename_i absent
    exact (Function.update_eq_self_iff.mpr absent.symm).symm
  · rfl

theorem foldl_remove (db : Database) (ps : List String) (q : String) :
    ((ps.map fun p => Operation.remove (.ofPackage p)).foldl apply db).items_ q =
      if q ∈ ps then none else db.items_ q := by
  induction ps generalizing db with
  | nil => rfl
  | cons p ps ih =>
    rw [List.map_cons, List.foldl_cons, ih]
    change (if q ∈ ps then none else (db.remove (.ofPackage p)).items_ q) = _
    rw [remove_items]
    by_cases same : q = p
    · subst same
      simp [Item.ofPackage]
    · have other : q ≠ (Item.ofPackage p).package := same
      rw [Function.update_of_ne other]
      simp [same]

theorem foldl_store (db : Database) (as : List Application) :
    ((as.map fun a => Operation.storeOrUpdate a.received).foldl apply db).items_ =
      overwrite Application.package (fun a => a.received.kept) db.items_ as := by
  induction as generalizing db with
  | nil => rfl
  | cons a as ih => exact ih _

theorem minus_apply (db : Database) (removed : List String) (p : String) :
    (db.minus removed).items_ p = if p ∈ removed ∧ p ≠ "" then none else db.items_ p := rfl

theorem plus_unnamed (db : Database) (items : List Item) : (db.plus items).items_ "" = db.items_ "" :=
  rfl

theorem plus_apply (db : Database) (items : List Item) {p : String} (named : p ≠ "") :
    (db.plus items).items_ p = ((latest Item.package p items).map Item.kept).or (db.items_ p) :=
  if_neg named

theorem latest_received (as : List Application) (p : String) :
    latest Item.package p (as.map Application.received) =
      (latest Application.package p as).map Application.received := latest_map _ _

/-- What one message does: first the packages are removed, then the applications stored. -/
theorem handle_eq (db : Database) (update : ApplicationListUpdate) :
    db.handle update =
      (db.minus update.removedApplications).plus (update.applications.map Application.received) := by
  ext1 p
  rw [handle, handled, List.foldl_append, foldl_store, overwrite_apply, foldl_remove]
  by_cases named : p = ""
  · subst named
    have none : latest Application.package ""
        (update.applications.filter fun a => decide (a.package ≠ "")) = none :=
      latest_eq_none.mpr fun a ha => by simpa using (List.mem_filter.mp ha).2
    rw [none, plus_unnamed, minus_apply, if_neg (by simp), if_neg (by simp)]
    rfl
  · have all : latest Application.package p
        (update.applications.filter fun a => decide (a.package ≠ "")) =
          latest Application.package p update.applications :=
      latest_filter fun a _ ha => by simpa [ha] using named
    rw [all, plus_apply _ _ named, latest_received, Option.map_map, minus_apply]
    simp [named, Function.comp_def]

theorem minus_nil (db : Database) : db.minus [] = db := by
  ext1 p
  simp [minus]

theorem plus_nil (db : Database) : db.plus [] = db := by
  ext1 p
  simp [plus]

theorem plus_plus (db : Database) (is js : List Item) : (db.plus is).plus js = db.plus (is ++ js) := by
  ext1 p
  by_cases named : p = ""
  · subst named
    rfl
  · rw [plus_apply _ _ named, plus_apply _ _ named, plus_apply _ _ named, latest_append,
      Option.map_or, Option.or_assoc]

/-- Messages with one application each. -/
theorem handle_each (db : Database) (as : List Application) :
    (as.map fun a => (⟨[a], []⟩ : ApplicationListUpdate)).foldl handle db =
      db.plus (as.map Application.received) := by
  induction as generalizing db with
  | nil => exact (plus_nil db).symm
  | cons a as ih =>
    rw [List.map_cons, List.foldl_cons, ih, handle_eq, minus_nil, plus_plus]
    rfl

def withIcon (as : List Application) : List Application :=
  as.filter fun a => decide (a.icon.length > 0)

def withoutIcon (as : List Application) : List Application :=
  as.filter fun a => decide (¬ a.icon.length > 0)

/-- The applications with an icon are stored before the packages are removed, the others behind. -/
theorem updated_eq (m : Misreads) (db : Database) (parcel : Parcel) :
    db.updated m parcel =
      ((db.plus ((withIcon (readUpdate m parcel).1).map Application.received)).minus
        (readUpdate m parcel).2).plus
          ((withoutIcon (readUpdate m parcel).1).map Application.received) := by
  rw [updated, Android.PlatformService.updateApplicationList, updates, List.foldl_append, handle_each,
    List.foldl_cons, List.foldl_nil, handle_eq]
  rfl

/-! The updates that come out right. -/

/-- Two entries say the same, whatever their types and icons. -/
structure Agree (a b : Application) : Prop where
  name : a.name = b.name
  package : a.package = b.package
  action : a.launchIntent.action = b.launchIntent.action
  uri : a.launchIntent.uri = b.launchIntent.uri
  intent_package : a.launchIntent.package = b.launchIntent.package
  component : a.launchIntent.component = b.launchIntent.component
  categories : a.launchIntent.categories = b.launchIntent.categories

theorem received_kept_eq_iff {a b : Application} :
    b.received.kept = a.item.kept ↔ a.launchIntent.type = a.launchIntent.uri ∧ Agree a b := by
  obtain ⟨name, package, ⟨action, uri, type, package', component, categories⟩, icon⟩ := a
  obtain ⟨name₂, package₂, ⟨action₂, uri₂, type₂, package₂', component₂, categories₂⟩, icon₂⟩ := b
  simp only [Application.received, Application.item, Item.kept, Item.mk.injEq, Android.Intent.mk.injEq]
  constructor
  · intro same
    obtain ⟨name, package, ⟨action, uri, type, package', component, categories⟩, -⟩ := same
    exact ⟨type.symm.trans uri, name.symm, package.symm, action.symm, uri.symm, package'.symm,
      component.symm, categories.symm⟩
  · intro agree
    obtain ⟨type, name, package, action, uri, package', component, categories⟩ := agree
    dsimp only at *
    exact ⟨name.symm, package.symm, ⟨action.symm, uri.symm, (type.trans uri).symm, package'.symm,
      component.symm, categories.symm⟩, trivial⟩

/-- The last entry of a package has its type in the URI as well. Where the package has an entry
without an icon, the last one of these says the same; else the package is not to be removed. -/
structure Settled (applications : List Application) (removed : List String) (p : String)
    (a : Application) : Prop where
  type : a.launchIntent.type = a.launchIntent.uri
  agree : ∀ b, latest Application.package p (withoutIcon applications) = some b → Agree a b
  kept : latest Application.package p (withoutIcon applications) = none → p ∉ removed

theorem latest_withIcon {as : List Application} {p : String}
    (h : latest Application.package p (withoutIcon as) = none) :
    latest Application.package p (withIcon as) = latest Application.package p as := by
  apply latest_filter
  intro a ha package
  by_contra bare
  have there : a ∈ withoutIcon as := List.mem_filter.mpr ⟨ha, by simpa using bare⟩
  exact latest_eq_none.mp h a there package

theorem latest_item (as : List Application) (p : String) :
    latest Item.package p (as.map Application.item) =
      (latest Application.package p as).map Application.item := latest_map _ _

theorem updated_unnamed (m : Misreads) (db : Database) (parcel : Parcel) :
    (db.updated m parcel).items_ "" =
      (db.expected (readUpdate m parcel).1 (readUpdate m parcel).2).items_ "" := by
  rw [updated_eq, expected]
  simp only [plus_unnamed, minus_apply, ne_eq, not_true_eq_false, and_false, if_false]

/-- A package of which the update has no application. -/
theorem updated_other {m : Misreads} {db : Database} {parcel : Parcel} {p : String} (named : p ≠ "")
    (h : latest Application.package p (readUpdate m parcel).1 = none) :
    (db.updated m parcel).items_ p =
      (db.expected (readUpdate m parcel).1 (readUpdate m parcel).2).items_ p := by
  have none : ∀ c : Application → Bool,
      latest Application.package p ((readUpdate m parcel).1.filter c) = none := fun c =>
    latest_eq_none.mpr fun a ha => latest_eq_none.mp h a (List.mem_filter.mp ha).1
  rw [updated_eq, expected]
  simp only [plus_apply _ _ named, minus_apply, latest_received, latest_item, withIcon, withoutIcon,
    none, h, Option.map_none, Option.none_or]

theorem updated_iff {m : Misreads} {db : Database} {parcel : Parcel} {p : String} {a : Application}
    (named : p ≠ "") (h : latest Application.package p (readUpdate m parcel).1 = some a) :
    (db.updated m parcel).items_ p =
        (db.expected (readUpdate m parcel).1 (readUpdate m parcel).2).items_ p ↔
      Settled (readUpdate m parcel).1 (readUpdate m parcel).2 p a := by
  rw [updated_eq, expected]
  simp only [plus_apply _ _ named, minus_apply, latest_received, latest_item, h, Option.map_some,
    Option.some_or]
  cases bare : latest Application.package p (withoutIcon (readUpdate m parcel).1) with
  | some b =>
    rw [Option.map_some, Option.map_some, Option.some_or, Option.some_inj, received_kept_eq_iff]
    constructor
    · intro ⟨type, agree⟩
      refine ⟨type, fun c there => ?_, fun none => ?_⟩
      · rwa [← Option.some.inj (bare.symm.trans there)]
      · rw [bare] at none
        cases none
    · exact fun settled => ⟨settled.type, settled.agree b bare⟩
  | none =>
    rw [latest_withIcon bare, h, Option.map_none, Option.map_none, Option.none_or]
    by_cases removed : p ∈ (readUpdate m parcel).2
    · rw [if_pos ⟨removed, named⟩]
      constructor
      · intro gone
        cases gone
      · exact fun settled => absurd removed (settled.kept bare)
    · rw [if_neg fun h => removed h.1, Option.map_some, Option.map_some, Option.some_or,
        Option.some_inj, received_kept_eq_iff]
      constructor
      · intro ⟨type, _⟩
        refine ⟨type, fun c there => ?_, fun _ => removed⟩
        rw [bare] at there
        cases there
      · exact fun settled => ⟨settled.type, ⟨rfl, rfl, rfl, rfl, rfl, rfl, rfl⟩⟩

/-- An update comes out as it should for every application of its. -/
theorem updated_eq_iff (m : Misreads) (db : Database) (parcel : Parcel) :
    db.updated m parcel = db.expected (readUpdate m parcel).1 (readUpdate m parcel).2 ↔
      ∀ p a, p ≠ "" → latest Application.package p (readUpdate m parcel).1 = some a →
        Settled (readUpdate m parcel).1 (readUpdate m parcel).2 p a := by
  constructor
  · intro same p a named there
    exact (updated_iff named there).mp (congrArg (fun db => db.items_ p) same)
  · intro settled
    ext1 p
    by_cases named : p = ""
    · rw [named]
      exact updated_unnamed m db parcel
    · cases there : latest Application.package p (readUpdate m parcel).1 with
      | none => exact updated_other named there
      | some a => exact (updated_iff named there).mpr (settled p a named there)

/-- A package is removed and reinstalled with an icon. -/
def reinstalled : Parcel :=
  [.int 1, .string (some "Calculator"), .string (some "com.android.calculator2"),
    .string (some "android.intent.action.MAIN"), .string none, .string none,
    .string (some "com.android.calculator2"), .string (some "com.android.calculator2.Calculator"),
    .int 1, .string (some "android.intent.category.INFO"), .bytes [137, 80, 78, 71],
    .int 1, .string (some "com.android.calculator2")]

/-- An application with an icon is stored first and removed then. -/
theorem reinstalled_is_gone : ¬ ∀ (m : Misreads) (db : Database) (parcel : Parcel),
    db.updated m parcel = db.expected (readUpdate m parcel).1 (readUpdate m parcel).2 := by
  intro h
  have same := congrArg (fun db => (items_ db "com.android.calculator2").isSome)
    (h ⟨fun _ => (0, []), fun _ => ("", []), fun _ => ([], [])⟩ ⟨fun _ => none⟩ reinstalled)
  exact absurd same (by decide)

end Database

end Anbox.Application
