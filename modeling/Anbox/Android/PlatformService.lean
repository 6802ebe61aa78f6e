import Anbox.Bridge.ApplicationList
import Anbox.Framework.Counted
import Mathlib.Data.List.TakeWhile

namespace Anbox.Android.PlatformService

open Anbox.Framework
open Anbox.Bridge.ApplicationList (Application ApplicationListUpdate)

/-! What the package manager reports. -/

/-- The launch intent of a package. It has a component, as the package manager makes it for one. -/
structure LaunchIntent where
  action : Option String
  data : Option String
  type : Option String
  componentPackage : String
  componentClass : String
  categories : Option (List String)

/-- A bitmap, by what `compress` makes of it. -/
structure Bitmap where
  png : List UInt8

/-- An icon. `drawn` is what it draws into a bitmap of its intrinsic size. -/
inductive Drawable where
  | bitmapDrawable (bitmap : Option Bitmap)
  | other (intrinsicWidth intrinsicHeight : Int) (drawn : Bitmap)

/-- An installed application. There is no `icon` where the package manager does not know the package
or gives none. -/
structure ApplicationInfo where
  packageName : String
  name : Option String
  label : Option String
  launchIntent : Option LaunchIntent
  icon : Option Drawable

/-! The parcel. -/

/-- What is written at once. -/
inductive Value where
  | int (n : Int)
  | string (s : Option String)
  | bytes (bs : List UInt8)
  deriving DecidableEq

abbrev Parcel := List Value

/-- What reads give that come upon a value of another kind, and what they leave of the parcel. -/
structure Misreads where
  int : Parcel → Int × Parcel
  string : Parcel → String × Parcel
  bytes : Parcel → List UInt8 × Parcel

/-- A text that goes through `String8::string` ends at its first null character. -/
def cString (s : String) : String := String.ofList (s.toList.takeWhile (· ≠ '\x00'))

/-! What `PlatformService.java` writes. -/

def ApplicationInfo.shownName (app : ApplicationInfo) : Option String :=
  match app.label with
  | some label => some label
  | none => app.name

/-- `none` where `createBitmap` raises, as it does for a size that is not positive; that of a
drawable without an intrinsic size is -1. A bitmap drawable may be without its bitmap. -/
def drawableToBitmap : Drawable → Option (Option Bitmap)
  | .bitmapDrawable bitmap => some bitmap
  | .other intrinsicWidth intrinsicHeight drawn =>
    if intrinsicWidth ≤ 0 ∨ intrinsicHeight ≤ 0 then none else some (some drawn)

/-- What is written of an icon; `none` where there is no bitmap to compress. -/
def picture (icon : Drawable) : Option (List UInt8) :=
  match drawableToBitmap icon with
  | some (some iconBitmap) => some iconBitmap.png
  | _ => none

/-- The entry of an application, an empty one if it is left out; `none` where an exception is
raised, as there is no set to ask for its size or no bitmap of the icon. -/
def writeApplication (app : ApplicationInfo) : Option Parcel :=
  match app.launchIntent with
  | none => some []
  | some launchIntent =>
    match app.icon with
    | none => some []
    | some icon =>
      match launchIntent.categories, picture icon with
      | some categories, some outStream => some
          ([.string app.shownName, .string (some app.packageName), .string launchIntent.action,
            .string (some (launchIntent.data.getD "")), .string launchIntent.type,
            .string (some launchIntent.componentPackage),
            .string (some launchIntent.componentClass),
            .int categories.length] ++
            categories.map (fun category => .string (some category)) ++ [.bytes outStream])
      | _, _ => none

/-- The number that is written is that of all applications. -/
def sendApplicationListUpdate (apps : List ApplicationInfo) : Option Parcel :=
  (apps.mapM writeApplication).map fun entries =>
    .int apps.length :: entries.flatten ++ [.int 0]

def notifyPackageRemoved (packageName : Option String) : Parcel :=
  [.int 0, .int 1, .string packageName]

/-! What `PlatformService::update_application_list` reads. -/

section

variable (m : Misreads)

def readInt32 : Parcel → Int × Parcel
  | .int n :: rest => (n, rest)
  | [] => (0, [])
  | parcel => m.int parcel

def readString16 : Parcel → String × Parcel
  | .string s :: rest => (s.getD "", rest)
  | [] => ("", [])
  | parcel => m.string parcel

def readByteVector : Parcel → List UInt8 × Parcel
  | .bytes bs :: rest => (bs, rest)
  | [] => ([], [])
  | parcel => m.bytes parcel

def readString (parcel : Parcel) : String × Parcel :=
  (cString (readString16 m parcel).1, (readString16 m parcel).2)

/-- A 32 bit number that is read as an unsigned one. -/
def unsigned (n : Int) : Nat := (if n < 0 then n + 0x100000000 else n).toNat

def readApplication (parcel : Parcel) : Application × Parcel :=
  let (name, parcel) := readString m parcel
  let (packageName, parcel) := readString m parcel
  let (action, parcel) := readString m parcel
  let (uri, parcel) := readString m parcel
  let (type, parcel) := readString m parcel
  let (componentPackage, parcel) := readString m parcel
  let (componentClass, parcel) := readString m parcel
  let (numCategories, parcel) := readInt32 m parcel
  let (categories, parcel) := readMany (readString m) (unsigned numCategories) parcel
  let (icon, parcel) := readByteVector m parcel
  ({ name := name
     package := packageName
     launchIntent :=
       { action := action
         uri := uri
         type := type
         package := componentPackage
         component := componentClass
         categories := categories }
     icon := icon }, parcel)

/-- The applications and the removed packages that are read. -/
def readUpdate (parcel : Parcel) : List Application × List String :=
  let (numPackages, parcel) := readInt32 m parcel
  let (applications, parcel) := readMany (readApplication m) numPackages.toNat parcel
  let (numRemovedPackages, parcel) := readInt32 m parcel
  (applications, (readMany (readString m) numRemovedPackages.toNat parcel).1)

/-- What is sent to the host: applications with an icon one by one, and the others with the removed
packages behind them. -/
def updates (applications : List Application) (removed : List String) : List ApplicationListUpdate :=
  (applications.filter (·.icon.length > 0)).map (fun a => ⟨[a], []⟩) ++
    [⟨applications.filter (¬ ·.icon.length > 0), removed⟩]

def updateApplicationList (parcel : Parcel) : List ApplicationListUpdate :=
  updates (readUpdate m parcel).1 (readUpdate m parcel).2

end

/-! What is to arrive. -/

/-- An application with a launch intent and an icon, as it is reported: what is missing is empty. -/
def entry (app : ApplicationInfo) : Option Application :=
  match app.launchIntent, app.icon with
  | some launchIntent, some icon => some
      { name := app.shownName.getD ""
        package := app.packageName
        launchIntent :=
          { action := launchIntent.action.getD ""
            uri := launchIntent.data.getD ""
            type := launchIntent.type.getD ""
            package := launchIntent.componentPackage
            component := launchIntent.componentClass
            categories := launchIntent.categories.getD [] }
        icon := (picture icon).getD [] }
  | _, _ => none

/-- The list is sent, and exactly its entries are read. -/
def Crosses (m : Misreads) (apps : List ApplicationInfo) : Prop :=
  ∃ parcel, sendApplicationListUpdate apps = some parcel ∧
    readUpdate m parcel = (apps.filterMap entry, [])

def RemovalCrosses (m : Misreads) (packageName : Option String) : Prop :=
  readUpdate m (notifyPackageRemoved packageName) = ([], [packageName.getD ""])

/-- The texts of an application as they are read. -/
def readBack (a : Application) : Application where
  name := cString a.name
  package := cString a.package
  launchIntent :=
    { action := cString a.launchIntent.action
      uri := cString a.launchIntent.uri
      type := cString a.launchIntent.type
      package := cString a.launchIntent.package
      component := cString a.launchIntent.component
      categories := a.launchIntent.categories.map cString }
  icon := a.icon

def NoNull (s : String) : Prop := '\x00' ∉ s.toList

theorem cString_eq_iff {s : String} : cString s = s ↔ NoNull s := by
  unfold cString NoNull
  rw [← String.toList_inj, String.toList_ofList, List.takeWhile_eq_self_iff]
  constructor
  · intro h null
    simpa using h _ null
  · intro h c hc
    simpa using ne_of_mem_of_not_mem hc h

def texts (a : Application) : List String :=
  [a.name, a.package, a.launchIntent.action, a.launchIntent.uri, a.launchIntent.type,
    a.launchIntent.package, a.launchIntent.component] ++ a.launchIntent.categories

theorem map_eq_self_iff {α : Type*} {f : α → α} {as : List α} :
    as.map f = as ↔ ∀ a ∈ as, f a = a := by
  conv_lhs => rhs; rw [← List.map_id as]
  exact List.map_inj_left

theorem readBack_eq_iff {a : Application} : readBack a = a ↔ ∀ s ∈ texts a, NoNull s := by
  obtain ⟨name, package, intent, icon⟩ := a
  obtain ⟨action, uri, type, package', component, categories⟩ := intent
  simp [readBack, texts, cString_eq_iff, map_eq_self_iff]

/-- Nothing that the entry of an application is made of is missing. -/
def Whole (app : ApplicationInfo) : Prop :=
  (∃ launchIntent, app.launchIntent = some launchIntent ∧ launchIntent.categories.isSome) ∧
    ∃ icon, app.icon = some icon ∧ (picture icon).isSome

theorem whole_iff {app : ApplicationInfo} :
    Whole app ↔ (writeApplication app).isSome ∧ (entry app).isSome := by
  unfold Whole writeApplication entry
  cases app.launchIntent with
  | none => simp
  | some launchIntent =>
    cases app.icon with
    | none => simp
    | some icon =>
      cases set : launchIntent.categories with
      | none => simp [set]
      | some categories => cases made : picture icon <;> simp [set, made]

section

variable (m : Misreads)

@[simp] theorem readString_cons (s : Option String) (rest : Parcel) :
    readString m (.string s :: rest) = (cString (s.getD ""), rest) := rfl

@[simp] theorem readInt32_cons (n : Int) (rest : Parcel) :
    readInt32 m (.int n :: rest) = (n, rest) := rfl

@[simp] theorem readByteVector_cons (bs : List UInt8) (rest : Parcel) :
    readByteVector m (.bytes bs :: rest) = (bs, rest) := rfl

@[simp] theorem unsigned_length {α : Type*} (as : List α) : unsigned as.length = as.length := by
  unfold unsigned
  split_ifs <;> omega

theorem read_categories (categories : List String) (rest : Parcel) :
    readMany (readString m) categories.length
        (categories.map (fun category => .string (some category)) ++ rest) =
      (categories.map cString, rest) := by
  rw [List.map_eq_flatMap]
  exact readMany_append (fun category _ rest => rfl) rest

/-- An entry that is written is read back. -/
theorem read_entry {app : ApplicationInfo} {written : Parcel} {a : Application}
    (hw : writeApplication app = some written) (ha : entry app = some a) (rest : Parcel) :
    readApplication m (written ++ rest) = (readBack a, rest) := by
  unfold writeApplication at hw
  unfold entry at ha
  cases intent : app.launchIntent with
  | none => simp [intent] at ha
  | some launchIntent =>
    cases icon : app.icon with
    | none => simp [intent, icon] at ha
    | some drawable =>
      cases set : launchIntent.categories with
      | none => simp [intent, icon, set] at hw
      | some categories =>
        cases made : picture drawable with
        | none => simp [intent, icon, set, made] at hw
        | some outStream =>
          simp only [intent, icon, set, made, Option.getD_some, Option.some.injEq] at hw ha
          obtain rfl := hw
          obtain rfl := ha
          simp only [List.append_assoc, List.cons_append, List.nil_append]
          unfold readApplication
          simp only [readString_cons, readInt32_cons, unsigned_length, read_categories,
            readByteVector_cons]
          rfl

/-- As many entries are read as there are applications. -/
theorem length_readUpdate {apps : List ApplicationInfo} {parcel : Parcel}
    (sent : sendApplicationListUpdate apps = some parcel) :
    (readUpdate m parcel).1.length = apps.length := by
  obtain ⟨entries, _, rfl⟩ := Option.map_eq_some_iff.mp sent
  unfold readUpdate
  rw [List.cons_append, readInt32_cons]
  dsimp only
  rw [length_readMany, Int.toNat_natCast]

theorem readEntries {apps : List ApplicationInfo} (whole : ∀ app ∈ apps, Whole app) :
    ∃ entries, apps.mapM writeApplication = some entries ∧
      ∀ rest, readMany (readApplication m) apps.length (entries.flatten ++ rest) =
        ((apps.filterMap entry).map readBack, rest) := by
  induction apps with
  | nil => exact ⟨[], rfl, fun _ => rfl⟩
  | cons app apps ih =>
    obtain ⟨entries, written, back⟩ := ih fun app there => whole app (List.mem_cons_of_mem _ there)
    obtain ⟨some_written, some_entry⟩ := whole_iff.mp (whole app List.mem_cons_self)
    obtain ⟨words, hw⟩ := Option.isSome_iff_exists.mp some_written
    obtain ⟨a, ha⟩ := Option.isSome_iff_exists.mp some_entry
    refine ⟨words :: entries, ?_, ?_⟩
    · rw [List.mapM_cons, hw, written]
      rfl
    · intro rest
      rw [List.length_cons, List.flatten_cons, List.append_assoc, readMany, read_entry m hw ha, back,
        List.filterMap_cons, ha]
      rfl

/-- A list of which nothing is missing is written whole, and read back entry by entry. -/
theorem read_list {apps : List ApplicationInfo} (whole : ∀ app ∈ apps, Whole app) :
    ∃ parcel, sendApplicationListUpdate apps = some parcel ∧
      readUpdate m parcel = ((apps.filterMap entry).map readBack, []) := by
  obtain ⟨entries, written, back⟩ := readEntries m whole
  refine ⟨_, Option.map_eq_some_iff.mpr ⟨entries, written, rfl⟩, ?_⟩
  unfold readUpdate
  rw [List.cons_append, readInt32_cons]
  dsimp only
  rw [Int.toNat_natCast, back]
  rfl

/-- Nothing is missing of a list that crosses: the number of the entries gives it away. -/
theorem whole_of_crosses {apps : List ApplicationInfo} (h : Crosses m apps) :
    ∀ app ∈ apps, Whole app := by
  obtain ⟨parcel, sent, read⟩ := h
  have length := length_readUpdate m sent
  rw [read, List.filterMap_length_eq_length] at length
  obtain ⟨entries, written, _⟩ := Option.map_eq_some_iff.mp sent
  exact fun app there => whole_iff.mpr ⟨isSome_of_mapM written app there, length app there⟩

theorem crosses_iff (apps : List ApplicationInfo) : Crosses m apps ↔
    ∀ app ∈ apps, Whole app ∧ ∀ a, entry app = some a → ∀ s ∈ texts a, NoNull s := by
  have texts_iff : (apps.filterMap entry).map readBack = apps.filterMap entry ↔
      ∀ app ∈ apps, ∀ a, entry app = some a → ∀ s ∈ texts a, NoNull s := by
    simp only [map_eq_self_iff, List.mem_filterMap, readBack_eq_iff]
    constructor
    · exact fun h app there a ha => h a ⟨app, there, ha⟩
    · intro h a ⟨app, there, ha⟩
      exact h app there a ha
  constructor
  · intro crosses
    have whole := whole_of_crosses m crosses
    obtain ⟨parcel, sent, read⟩ := crosses
    obtain ⟨parcel', sent', read'⟩ := read_list m whole
    obtain rfl := Option.some.inj (sent.symm.trans sent')
    have same := texts_iff.mp (congrArg Prod.fst (read'.symm.trans read))
    exact fun app there => ⟨whole app there, same app there⟩
  · intro h
    obtain ⟨parcel, sent, read⟩ := read_list m fun app there => (h app there).1
    refine ⟨parcel, sent, ?_⟩
    rw [read, texts_iff.mpr fun app there => (h app there).2]

theorem removal_crosses_iff (packageName : Option String) :
    RemovalCrosses m packageName ↔ NoNull (packageName.getD "") := by
  rw [← cString_eq_iff]
  change ([], [cString (packageName.getD "")]) = _ ↔ _
  simp

/-- The list crosses the parcel exactly when no application is left out and none lacks the set of
its categories or a bitmap of its icon, and no text has a null character in it; and a removed package does when its name
has none. -/
theorem list_crosses_iff (apps : List ApplicationInfo) (packageName : Option String) :
    (Crosses m apps ↔
        ∀ app ∈ apps, Whole app ∧ ∀ a, entry app = some a → ∀ s ∈ texts a, NoNull s) ∧
      (RemovalCrosses m packageName ↔ NoNull (packageName.getD "")) :=
  ⟨crosses_iff m apps, removal_crosses_iff m packageName⟩

end

/-- A package without a launch intent, as most of those of the system are. -/
def provider : ApplicationInfo where
  packageName := "com.android.providers.media"
  name := none
  label := some "Media Storage"
  launchIntent := none
  icon := some (.bitmapDrawable (some ⟨[137, 80, 78, 71]⟩))

theorem left_out_is_counted :
    ¬ ∀ m apps packageName, Crosses m apps ∧ RemovalCrosses m packageName := by
  intro h
  let m : Misreads := ⟨fun parcel => (0, parcel), fun parcel => ("", parcel), fun parcel => ([], parcel)⟩
  have whole := whole_of_crosses m (h m [provider] none).1 provider List.mem_cons_self
  obtain ⟨⟨launchIntent, there, _⟩, _⟩ := whole
  cases there

end Anbox.Android.PlatformService
