import Mathlib.Data.List.TakeWhile
import Mathlib.Logic.Function.Basic
import Anbox.Bridge.ApplicationList

namespace Anbox.Application

namespace LauncherStorage

def cleanPackageName (packageName : List Char) : List Char :=
  packageName.map fun c => if c = '.' then '-' else c

/-- A path with a name behind it. -/
def append (path name : List Char) : List Char :=
  if path = [] ∨ path.getLast? = some '/' then path ++ name else path ++ '/' :: name

def fileForItem (packageName : List Char) : List Char :=
  "anbox-".toList ++ packageName ++ ".desktop".toList

def fileForItemIcon (packageName : List Char) : List Char :=
  "anbox-".toList ++ packageName ++ ".png".toList

def pathForItemIcon (path_ packageName : List Char) : List Char :=
  append path_ (fileForItemIcon packageName)

def snapExePath : List Char := "/snap/bin/anbox".toList

/-- The program is `own`; inside of a snap it is called by another path. -/
def exePath (own snap : List Char) : List Char := if snap.length > 0 then snapExePath else own

/-- A launch option is left out when there is nothing to say. -/
def option (key : String) (value : String) : List Char :=
  if value = "" then [] else key.toList ++ value.toList ++ [' ']

def exec (exePath : List Char) (item : Item) : List Char :=
  exePath ++ " launch ".toList ++
    option "--action=" item.launchIntent.action ++
    option "--type=" item.launchIntent.type ++
    option "--uri=" item.launchIntent.uri ++
    option "--package=" item.launchIntent.package ++
    option "--component=" item.launchIntent.component

/-- What is written to the desktop file. -/
def desktopItem (path_ exePath : List Char) (item : Item) : List Char :=
  "[Desktop Entry]".toList ++ '\n' ::
    ("Name=".toList ++ item.name.toList ++ '\n' ::
      ("Exec=".toList ++ exec exePath item ++ '\n' ::
        ("Terminal=false".toList ++ '\n' ::
          ("Type=Application".toList ++ '\n' ::
            ("Icon=".toList ++ pathForItemIcon path_ (cleanPackageName item.package.toList) ++ ['\n'])))))

/-! The files. -/

/-- The regular files of the directory. -/
abbrev Files := List Char → Option (List UInt8)

def bytes (text : List Char) : List UInt8 := text.flatMap String.utf8EncodeChar

/-- The system reads a name up to its first NUL. -/
def cStr (name : List Char) : List Char := name.takeWhile (· ≠ '\x00')

/-- A name with a slash is looked for in a directory that is not there. -/
def opened (name : List Char) (answer : Option Nat) : Option Nat :=
  if '/' ∈ cStr name then none else answer

/-- Of what is written to a file, the system stores so many bytes; `none` when it is not opened. -/
def write (files : Files) (name : List Char) (content : List UInt8) (answer : Option Nat) : Option Files :=
  (opened name answer).map fun n => Function.update files (cStr name) (some (content.take n))

def startsWithAnbox (name : List Char) : Bool := "anbox-".toList.isPrefixOf name

/-- An operation that raises leaves the files as they are then. When a file cannot be removed, some of
the others are. -/
def reset (files : Files) : Option (List Char → Bool) → Except Files Files
  | none => .ok fun name => if startsWithAnbox name then none else files name
  | some removed => .error fun name => if startsWithAnbox name && removed name then none else files name

/-- What the system does while a launcher is written: `prepared` when the directory is there and the
program has a path. -/
structure Outcome where
  prepared : Bool
  desktop : Option Nat
  icon : Option Nat

def addOrUpdate (path_ exePath : List Char) (files : Files) (item : Item) (o : Outcome) :
    Except Files Files :=
  let packageName := cleanPackageName item.package.toList
  if !o.prepared then .error files else
    match write files (fileForItem packageName) (bytes (desktopItem path_ exePath item)) o.desktop with
    | none => .error files
    | some files =>
      match write files (fileForItemIcon packageName) item.icon o.icon with
      | none => .error files
      | some files => .ok files

def erase (files : Files) (name : List Char) : Files := Function.update files (cStr name) none

/-- `desktop` and `icon` are false when the file cannot be removed. -/
def remove (files : Files) (item : Item) (desktop icon : Bool) : Except Files Files :=
  let packageName := cleanPackageName item.package.toList
  if !desktop then .error files else
    let files := erase files (fileForItem packageName)
    if !icon then .error files else .ok (erase files (fileForItemIcon packageName))

/-! The names. -/

inductive Part where
  | desktop
  | icon
  deriving DecidableEq

def extension : Part → List Char
  | .desktop => ".desktop".toList
  | .icon => ".png".toList

/-- The file in which a part of the launcher of a package stands. -/
def slot (package : String) : Part → List Char
  | .desktop => cStr (fileForItem (cleanPackageName package.toList))
  | .icon => cStr (fileForItemIcon (cleanPackageName package.toList))

theorem slot_eq (package : String) (part : Part) :
    slot package part = cStr ("anbox-".toList ++ cleanPackageName package.toList ++ extension part) := by
  cases part <;> rfl

theorem cStr_append {front : List Char} (h : '\x00' ∉ front) (name : List Char) :
    cStr (front ++ name) = front ++ cStr name := by
  refine List.takeWhile_append_of_pos ?_
  intro c hc
  exact decide_eq_true (ne_of_mem_of_not_mem hc h)

theorem slot_startsWithAnbox (package : String) (part : Part) :
    startsWithAnbox (slot package part) = true := by
  rw [slot_eq, List.append_assoc, cStr_append (by decide), startsWithAnbox, List.isPrefixOf_iff_prefix]
  exact List.prefix_append _ _

theorem nul_mem_clean {name : List Char} : '\x00' ∈ cleanPackageName name ↔ '\x00' ∈ name := by
  simp only [cleanPackageName, List.mem_map]
  constructor
  · intro h
    obtain ⟨c, hc, same⟩ := h
    split_ifs at same
    · cases same
    · exact same ▸ hc
  · intro h
    exact ⟨_, h, rfl⟩

theorem nul_not_mem_extension (part : Part) : '\x00' ∉ extension part := by
  cases part <;> decide

theorem getLast_extension (front : List Char) (part : Part) :
    (front ++ extension part).getLast? = (extension part).getLast? := by
  rw [List.getLast?_append]
  cases part <;> rfl

theorem slot_of_plain {package : String} (h : '\x00' ∉ package.toList) (part : Part) :
    slot package part = "anbox-".toList ++ cleanPackageName package.toList ++ extension part := by
  have plain : '\x00' ∉ "anbox-".toList ++ cleanPackageName package.toList ++ extension part := by
    rw [List.mem_append, List.mem_append, nul_mem_clean, not_or, not_or]
    exact ⟨⟨by decide, h⟩, nul_not_mem_extension part⟩
  rw [slot_eq]
  exact List.takeWhile_eq_self_iff.mpr fun c hc => decide_eq_true (ne_of_mem_of_not_mem hc plain)

/-- Both files have the same name when a NUL is in front of where they differ. -/
theorem slot_injective_iff {package : String} :
    Function.Injective (slot package) ↔ '\x00' ∉ package.toList := by
  constructor
  · intro h there
    obtain ⟨front, behind, cut, plain⟩ := List.eq_append_cons_of_mem (nul_mem_clean.mpr there)
    have short : ∀ part, slot package part = "anbox-".toList ++ front := by
      intro part
      have clear : '\x00' ∉ "anbox-".toList ++ front := by simp [plain]
      rw [slot_eq, cut, ← List.append_assoc, List.append_assoc, List.cons_append, cStr_append clear, cStr,
        List.takeWhile_cons_of_neg (by decide), List.append_nil]
    exact absurd (h ((short .desktop).trans (short .icon).symm)) (by decide)
  · intro h part part' same
    rw [slot_of_plain h, slot_of_plain h] at same
    have ends := List.append_cancel_left same
    cases part <;> cases part' <;> first | rfl | exact absurd ends (by decide)

theorem slot_eq_iff {package package' : String} (h : '\x00' ∉ package.toList)
    (h' : '\x00' ∉ package'.toList) {part part' : Part} :
    slot package part = slot package' part' ↔
      cleanPackageName package.toList = cleanPackageName package'.toList ∧ part = part' := by
  rw [slot_of_plain h, slot_of_plain h']
  constructor
  · intro same
    have last := congrArg List.getLast? same
    rw [getLast_extension, getLast_extension] at last
    cases part <;> cases part'
    · exact ⟨List.append_cancel_left (List.append_cancel_right same), rfl⟩
    · exact absurd last (by decide)
    · exact absurd last (by decide)
    · exact ⟨List.append_cancel_left (List.append_cancel_right same), rfl⟩
  · intro both
    rw [both.1, both.2]

/-! What the operations do to the files. -/

section

variable {path_ exePath : List Char} {files files' : Files} {item : Item} {o : Outcome}

theorem write_eq_none {name : List Char} {b : List UInt8} {answer : Option Nat} :
    write files name b answer = none ↔ opened name answer = none := Option.map_eq_none_iff

theorem write_eq_some {name : List Char} {b : List UInt8} {answer : Option Nat} :
    write files name b answer = some files' ↔
      ∃ n, opened name answer = some n ∧ files' = Function.update files (cStr name) (some (b.take n)) := by
  rw [write, Option.map_eq_some_iff]
  constructor
  · intro h
    obtain ⟨n, hn, same⟩ := h
    exact ⟨n, hn, same.symm⟩
  · intro h
    obtain ⟨n, hn, same⟩ := h
    exact ⟨n, hn, same.symm⟩

/-- The desktop file is not opened; or it is and the icon is not; or both are. -/
theorem addOrUpdate_cases (path_ exePath : List Char) (files : Files) (item : Item) (o : Outcome) :
    ((o.prepared = false ∨ opened (fileForItem (cleanPackageName item.package.toList)) o.desktop = none) ∧
      addOrUpdate path_ exePath files item o = .error files) ∨
    (o.prepared = true ∧ ∃ n,
      opened (fileForItem (cleanPackageName item.package.toList)) o.desktop = some n ∧
      opened (fileForItemIcon (cleanPackageName item.package.toList)) o.icon = none ∧
      addOrUpdate path_ exePath files item o = .error (Function.update files (slot item.package .desktop)
        (some ((bytes (desktopItem path_ exePath item)).take n)))) ∨
    (o.prepared = true ∧ ∃ n m,
      opened (fileForItem (cleanPackageName item.package.toList)) o.desktop = some n ∧
      opened (fileForItemIcon (cleanPackageName item.package.toList)) o.icon = some m ∧
      addOrUpdate path_ exePath files item o = .ok (Function.update
        (Function.update files (slot item.package .desktop)
          (some ((bytes (desktopItem path_ exePath item)).take n)))
        (slot item.package .icon) (some (item.icon.take m)))) := by
  cases ready : o.prepared with
  | false => exact Or.inl ⟨Or.inl rfl, by rw [addOrUpdate, ready]; rfl⟩
  | true =>
    cases desktop : opened (fileForItem (cleanPackageName item.package.toList)) o.desktop with
    | none =>
      refine Or.inl ⟨Or.inr rfl, ?_⟩
      rw [addOrUpdate, ready]
      simp only [Bool.not_true, Bool.false_eq_true, if_false, write_eq_none.mpr desktop]
    | some n =>
      have first : write files (fileForItem (cleanPackageName item.package.toList))
          (bytes (desktopItem path_ exePath item)) o.desktop =
            some (Function.update files (slot item.package .desktop)
              (some ((bytes (desktopItem path_ exePath item)).take n))) :=
        write_eq_some.mpr ⟨n, desktop, rfl⟩
      cases icon : opened (fileForItemIcon (cleanPackageName item.package.toList)) o.icon with
      | none =>
        refine Or.inr (Or.inl ⟨rfl, n, rfl, rfl, ?_⟩)
        rw [addOrUpdate, ready]
        simp only [Bool.not_true, Bool.false_eq_true, if_false, first, write_eq_none.mpr icon]
      | some m =>
        refine Or.inr (Or.inr ⟨rfl, n, m, rfl, rfl, ?_⟩)
        have second : ∀ files : Files, write files (fileForItemIcon (cleanPackageName item.package.toList))
            item.icon o.icon = some (Function.update files (slot item.package .icon)
              (some (item.icon.take m))) := fun _ => write_eq_some.mpr ⟨m, icon, rfl⟩
        rw [addOrUpdate, ready]
        simp only [Bool.not_true, Bool.false_eq_true, if_false, first, second]

end

end LauncherStorage

end Anbox.Application
