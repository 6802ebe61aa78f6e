import Anbox.Android.Intent

namespace Anbox.Application

open Anbox.Android (Intent)

/-- `Database::Item`. -/
structure Item where
  name : String
  package : String
  launchIntent : Intent
  icon : List UInt8
  deriving DecidableEq

/-- The item under a package's name that nothing else is set of. -/
def Item.ofPackage (package : String) : Item where
  name := ""
  package := package
  launchIntent := { action := "", uri := "", type := "", package := "", component := "", categories := [] }
  icon := []

end Anbox.Application

namespace Anbox.Bridge.ApplicationList

open Anbox.Android (Intent)
open Anbox.Application (Item)

/-- `PlatformApiStub::ApplicationListUpdate::Application`. -/
structure Application where
  name : String
  package : String
  launchIntent : Intent
  icon : List UInt8
  deriving DecidableEq

structure ApplicationListUpdate where
  applications : List Application
  removedApplications : List String

/-- The message `ApplicationListUpdateEvent::Application`. -/
structure ApplicationMessage where
  name : String
  package : String
  launchIntent : Option IntentMessage
  icon : Option (List UInt8)

structure Event where
  applications : List ApplicationMessage
  removedApplications : List ApplicationMessage

/-! What `PlatformApiStub::update_application_list` sends. -/

/-- All fields of the intent are set, the empty ones too. -/
def intentMessage (intent : Intent) : IntentMessage where
  action := some intent.action
  uri := some intent.uri
  type := some intent.type
  package := some intent.package
  component := some intent.component
  categories := intent.categories

def applicationMessage (a : Application) : ApplicationMessage where
  name := a.name
  package := a.package
  launchIntent := some (intentMessage a.launchIntent)
  icon := if a.icon.length > 0 then some a.icon else none

def removedMessage (package : String) : ApplicationMessage where
  name := "unknown"
  package := package
  launchIntent := none
  icon := none

def updateApplicationList (update : ApplicationListUpdate) : Event where
  applications := update.applications.map applicationMessage
  removedApplications := update.removedApplications.map removedMessage

/-! What `PlatformApiSkeleton::handle_application_list_update_event` does with it. -/

/-- What is asked of the database. -/
inductive Operation where
  | remove (item : Item)
  | storeOrUpdate (item : Item)
  deriving DecidableEq

def IntentMessage.empty : IntentMessage where
  action := none
  uri := none
  type := none
  package := none
  component := none
  categories := []

def removeItem (app : ApplicationMessage) : Option Operation :=
  if app.package = "" then none else some (.remove (.ofPackage app.package))

/-- The type is read from the field of the URI. -/
def storeItem (app : ApplicationMessage) : Option Operation :=
  let li := app.launchIntent.getD IntentMessage.empty
  let item : Item :=
    { name := app.name
      package := app.package
      launchIntent :=
        { action := li.action.getD ""
          uri := li.uri.getD ""
          type := li.uri.getD ""
          package := li.package.getD ""
          component := li.component.getD ""
          categories := li.categories }
      icon := app.icon.getD [] }
  if item.package = "" then none else some (.storeOrUpdate item)

def handleApplicationListUpdateEvent (event : Event) : List Operation :=
  event.removedApplications.filterMap removeItem ++ event.applications.filterMap storeItem

/-! What is to come of an update. -/

def Application.item (a : Application) : Item where
  name := a.name
  package := a.package
  launchIntent := a.launchIntent
  icon := a.icon

/-- What arrives of an application. -/
def Application.received (a : Application) : Item :=
  { a.item with launchIntent := { a.launchIntent with type := a.launchIntent.uri } }

theorem Application.received_eq_iff {a : Application} :
    a.received = a.item ↔ a.launchIntent.type = a.launchIntent.uri := by
  obtain ⟨name, package, intent, icon⟩ := a
  obtain ⟨action, uri, type, package', component, categories⟩ := intent
  simp [received, item, eq_comm]

/-- Every package that is named by the update has a name. -/
structure ApplicationListUpdate.Named (update : ApplicationListUpdate) : Prop where
  applications : ∀ a ∈ update.applications, a.package ≠ ""
  removedApplications : "" ∉ update.removedApplications

/-- The database is asked for what the update says: nothing is changed on the way. -/
def Survives (update : ApplicationListUpdate) : Prop :=
  handleApplicationListUpdateEvent (updateApplicationList update) =
    update.removedApplications.map (fun package => .remove (.ofPackage package)) ++
      update.applications.map fun a => .storeOrUpdate a.item

instance (update : ApplicationListUpdate) : Decidable (Survives update) :=
  inferInstanceAs (Decidable (_ = _))

theorem icon_received (a : Application) : (applicationMessage a).icon.getD [] = a.icon := by
  unfold applicationMessage
  dsimp only
  split_ifs with some
  · rfl
  · exact (List.eq_nil_of_length_eq_zero (Nat.eq_zero_of_not_pos some)).symm

theorem storeItem_message (a : Application) :
    storeItem (applicationMessage a) =
      if a.package = "" then none else some (.storeOrUpdate a.received) := by
  unfold storeItem
  rw [icon_received]
  rfl

/-- Packages without a name are left out, and the others are asked for in the order of the
update. -/
theorem handled (update : ApplicationListUpdate) :
    handleApplicationListUpdateEvent (updateApplicationList update) =
      (update.removedApplications.filter (· ≠ "")).map (fun p => .remove (.ofPackage p)) ++
        (update.applications.filter (·.package ≠ "")).map fun a => .storeOrUpdate a.received := by
  have removed : ∀ ps : List String, (ps.map removedMessage).filterMap removeItem =
      (ps.filter (· ≠ "")).map fun p => .remove (.ofPackage p) := by
    intro ps
    induction ps with
    | nil => rfl
    | cons p ps ih =>
      rw [List.map_cons, List.filterMap_cons, ih]
      by_cases empty : p = "" <;> simp [removeItem, removedMessage, empty]
  have stored : ∀ as : List Application, (as.map applicationMessage).filterMap storeItem =
      (as.filter (·.package ≠ "")).map fun a => .storeOrUpdate a.received := by
    intro as
    induction as with
    | nil => rfl
    | cons a as ih =>
      rw [List.map_cons, List.filterMap_cons, storeItem_message, ih]
      by_cases empty : a.package = "" <;> simp [empty]
  rw [handleApplicationListUpdateEvent, updateApplicationList, removed, stored]

/-- The records survive the bridge exactly when the type of every launch intent is its URI. -/
theorem records_survive_iff {update : ApplicationListUpdate} (named : update.Named) :
    Survives update ↔
      ∀ a ∈ update.applications, a.launchIntent.type = a.launchIntent.uri := by
  have all : update.applications.filter (·.package ≠ "") = update.applications :=
    List.filter_eq_self.mpr fun a ha => by simpa using named.applications a ha
  have removed : update.removedApplications.filter (· ≠ "") = update.removedApplications :=
    List.filter_eq_self.mpr fun p hp => by
      simpa using ne_of_mem_of_not_mem hp named.removedApplications
  rw [Survives, handled, all, removed, List.append_cancel_left_eq, List.map_inj_left]
  apply forall₂_congr
  intro a ha
  rw [Operation.storeOrUpdate.injEq, Application.received_eq_iff]

/-- A picture is shown by its type. -/
def gallery : ApplicationListUpdate where
  applications :=
    [{ name := "Gallery"
       package := "com.android.gallery3d"
       launchIntent :=
         { action := "android.intent.action.VIEW"
           uri := "content://media"
           type := "image/*"
           package := "com.android.gallery3d"
           component := "com.android.gallery3d.app.Gallery"
           categories := [] }
       icon := [] }]
  removedApplications := []

theorem type_lost : ¬ ∀ update : ApplicationListUpdate, update.Named → Survives update := by
  intro h
  have named : gallery.Named := ⟨by decide, by decide⟩
  exact absurd (h gallery named) (by decide)

/-- An application that was removed and another one whose intent has neither a type nor a URI. -/
def calculator : ApplicationListUpdate where
  applications :=
    [{ name := "Calculator"
       package := "com.android.calculator2"
       launchIntent :=
         { action := "android.intent.action.MAIN"
           uri := ""
           type := ""
           package := "com.android.calculator2"
           component := "com.android.calculator2.Calculator"
           categories := ["android.intent.category.INFO"] }
       icon := [137, 80, 78, 71] }]
  removedApplications := ["com.android.gallery3d"]

theorem calculator_survives : calculator.Named ∧ Survives calculator :=
  ⟨⟨by decide, by decide⟩, (records_survive_iff ⟨by decide, by decide⟩).mpr (by decide)⟩

end Anbox.Bridge.ApplicationList
