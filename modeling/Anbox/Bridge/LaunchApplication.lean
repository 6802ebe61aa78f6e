import Anbox.Android.Intent
import Anbox.Framework.Decimal
import Anbox.Graphics.Rect
import Anbox.Wm.MultiWindowManager

namespace Anbox.Bridge.LaunchApplication

open Anbox.Android (Intent)
open Anbox.Framework
open Anbox.Graphics (Rect)
open Anbox.Wm (Stack.Id)

/-- `LaunchApplication_Stack`. -/
inductive Stack where
  | DEFAULT
  | FULLSCREEN
  | FREEFORM
  deriving DecidableEq

def Stack.number : Stack → Nat
  | .DEFAULT => 0
  | .FULLSCREEN => 1
  | .FREEFORM => 2

structure RectMessage where
  left : Option Int
  top : Option Int
  right : Option Int
  bottom : Option Int

structure Message where
  intent : IntentMessage
  launchBounds : Option RectMessage
  stack : Option Stack

/-! What `AndroidApiStub::launch` sends. -/

/-- The member of `AndroidApiStub`, which nothing sets. -/
def launchBounds_ : Rect := Rect.Invalid

def stackMessage : Stack.Id → Option Stack
  | .Default => some .DEFAULT
  | .Fullscreen => some .FULLSCREEN
  | .Freeform => some .FREEFORM
  | .Invalid | .unnamed _ => none

def boundsMessage (launchBounds : Rect) : Option RectMessage :=
  if launchBounds ≠ Rect.Invalid then
    some ⟨some launchBounds_.left_, some launchBounds_.top_, some launchBounds_.right_,
      some launchBounds_.bottom_⟩
  else none

def launch (intent : Intent) (launchBounds : Rect) (stack : Stack.Id) : Message where
  stack := stackMessage stack
  launchBounds := boundsMessage launchBounds
  intent :=
    { action := unlessEmpty intent.action
      uri := unlessEmpty intent.uri
      type := unlessEmpty intent.type
      package := unlessEmpty intent.package
      component := unlessEmpty intent.component
      categories := intent.categories }

/-! What `AndroidApiSkeleton::launch_application` makes of it. -/

def option (name : String) (value : Option String) : List String :=
  match value with
  | some value => [name, value]
  | none => []

def boundsText (left top right bottom : Int) : String :=
  left.repr ++ " " ++ (top.repr ++ " " ++ (right.repr ++ " " ++ bottom.repr))

def RectMessage.text (r : RectMessage) : String :=
  boundsText (r.left.getD 0) (r.top.getD 0) (r.right.getD 0) (r.bottom.getD 0)

def command : List String := ["/system/bin/am", "start"]

/-- A component is looked at behind a package only. -/
def component (intent : IntentMessage) : String :=
  let package := intent.package.getD ""
  if package ≠ "" ∧ intent.component.isSome then package ++ "/" ++ intent.component.getD "" else package

/-- The argument vector. -/
def launchApplication (request : Message) : List String :=
  command ++ option "--stack" (request.stack.map fun s => s.number.repr) ++
    option "--launch-bounds" (request.launchBounds.map RectMessage.text) ++
    option "-a" request.intent.action ++ option "-d" request.intent.uri ++
    option "-t" request.intent.type ++ (unlessEmpty (component request.intent)).toList

/-! What a launch is to say. -/

/-- What an argument of `am start` can say, each in words of its own. -/
inductive Argument where
  | stack (number : Nat)
  | launchBounds (r : Rect)
  | action (s : String)
  | data (s : String)
  | type (s : String)
  | category (s : String)
  | package (s : String)
  | packageComponent (s t : String)
  | component (s : String)
  deriving DecidableEq

def Argument.words : Argument → List String
  | .stack number => ["--stack", number.repr]
  | .launchBounds r => ["--launch-bounds", boundsText r.left_ r.top_ r.right_ r.bottom_]
  | .action s => ["-a", s]
  | .data s => ["-d", s]
  | .type s => ["-t", s]
  | .category s => ["-c", s]
  | .package s => [s]
  | .packageComponent s t => [s ++ "/" ++ t]
  | .component s => ["-n", s]

def stackNumber : Stack.Id → Option Nat
  | .Default => some 0
  | .Fullscreen => some 1
  | .Freeform => some 2
  | .Invalid | .unnamed _ => none

/-- An argument for a text, if there is one. -/
def given (say : String → Argument) (s : String) : List Argument :=
  if s = "" then [] else [say s]

def boundsArgument (launchBounds : Rect) : List Argument :=
  if launchBounds = Rect.Invalid then [] else [.launchBounds launchBounds]

/-- What the activity is, by its package and its component. -/
def target (package component : String) : List Argument :=
  if package = "" then given .component component
  else if component = "" then [.package package]
  else [.packageComponent package component]

/-- The arguments for what a launch is about apart from its bounds, its categories and its target. -/
def plain (intent : Intent) : List Argument :=
  given .action intent.action ++ given .data intent.uri ++ given .type intent.type

def arguments (intent : Intent) (launchBounds : Rect) (stack : Stack.Id) : List Argument :=
  (stackNumber stack).toList.map .stack ++ boundsArgument launchBounds ++ plain intent ++
    intent.categories.map .category ++ target intent.package intent.component

/-- The argument vector says what the launch is about and nothing else; the order of the arguments
does not count. -/
def Expresses (argv : List String) (intent : Intent) (launchBounds : Rect) (stack : Stack.Id) :
    Prop :=
  ∃ said : List Argument, said.Perm (arguments intent launchBounds stack) ∧
    argv = command ++ said.flatMap Argument.words

/-! What is said. -/

/-- Bounds are sent as those of the member. -/
def boundsSent (launchBounds : Rect) : List Argument :=
  if launchBounds = Rect.Invalid then [] else [.launchBounds launchBounds_]

/-- A component alone is not sent, and neither are the categories. -/
def targetSent (package component : String) : List Argument :=
  if package = "" then [] else target package component

theorem option_stack (stack : Stack.Id) :
    option "--stack" ((stackMessage stack).map fun s => s.number.repr) =
      ((stackNumber stack).toList.map Argument.stack).flatMap Argument.words := by
  cases stack <;> rfl

theorem option_bounds (launchBounds : Rect) :
    option "--launch-bounds" ((boundsMessage launchBounds).map RectMessage.text) =
      (boundsSent launchBounds).flatMap Argument.words := by
  unfold boundsMessage boundsSent
  by_cases invalid : launchBounds = Rect.Invalid
  · rw [if_neg (not_not.mpr invalid), if_pos invalid]
    rfl
  · rw [if_pos invalid, if_neg invalid]
    rfl

theorem option_given {name : String} (say : String → Argument)
    (words : ∀ s, (say s).words = [name, s]) (s : String) :
    option name (unlessEmpty s) = (given say s).flatMap Argument.words := by
  unfold given
  split_ifs with empty
  · rw [empty]
    rfl
  · rw [unlessEmpty_of_ne empty, List.flatMap_singleton, words]
    rfl

theorem component_sent (intent : Intent) (launchBounds : Rect) (stack : Stack.Id) :
    (unlessEmpty (component (launch intent launchBounds stack).intent)).toList =
      (targetSent intent.package intent.component).flatMap Argument.words := by
  unfold component targetSent target launch
  dsimp only
  by_cases package : intent.package = ""
  · rw [package]
    simp
  · have named : (unlessEmpty intent.package).getD "" = intent.package := by
      rw [unlessEmpty_of_ne package]
      rfl
    rw [named, if_neg package]
    by_cases component : intent.component = ""
    · rw [component, if_neg (by simp), if_neg package, if_pos rfl, unlessEmpty_of_ne package]
      rfl
    · have full : intent.package ++ "/" ++ intent.component ≠ "" := by simp [package]
      rw [unlessEmpty_of_ne component, if_pos ⟨package, rfl⟩, if_neg package, if_neg component,
        Option.getD_some, unlessEmpty_of_ne full]
      rfl

theorem launched (intent : Intent) (launchBounds : Rect) (stack : Stack.Id) :
    launchApplication (launch intent launchBounds stack) =
      command ++ ((stackNumber stack).toList.map Argument.stack ++ boundsSent launchBounds ++
        plain intent ++ targetSent intent.package intent.component).flatMap Argument.words := by
  unfold launchApplication
  rw [component_sent]
  dsimp only [launch]
  rw [option_stack, option_bounds, option_given .action fun _ => rfl,
    option_given .data fun _ => rfl, option_given .type fun _ => rfl]
  simp only [plain, List.flatMap_append, List.append_assoc]

/-! The launches that arrive. -/

theorem length_categories (categories : List String) :
    ((categories.map Argument.category).flatMap Argument.words).length = 2 * categories.length := by
  induction categories with
  | nil => rfl
  | cons s categories ih =>
    rw [List.map_cons, List.flatMap_cons, List.length_append, ih, List.length_cons]
    change 2 + _ = _
    omega

theorem targetSent_eq_iff {package component : String} :
    targetSent package component = target package component ↔ (package = "" → component = "") := by
  unfold targetSent target given
  by_cases empty : package = ""
  · by_cases none : component = "" <;> simp [empty, none]
  · simp [empty]

/-- What is not sent of the target makes the argument vector shorter. -/
theorem length_targetSent (package component : String) :
    ((targetSent package component).flatMap Argument.words).length ≤
        ((target package component).flatMap Argument.words).length ∧
      (((targetSent package component).flatMap Argument.words).length =
          ((target package component).flatMap Argument.words).length →
        targetSent package component = target package component) := by
  by_cases sent : targetSent package component = target package component
  · rw [sent]
    exact ⟨le_rfl, fun _ => rfl⟩
  · obtain ⟨package, component⟩ := Classical.not_imp.mp (mt targetSent_eq_iff.mpr sent)
    simp [targetSent, target, given, package, component, Argument.words]

theorem boundsSent_words (launchBounds : Rect) :
    ((boundsSent launchBounds).flatMap Argument.words).length =
      ((boundsArgument launchBounds).flatMap Argument.words).length := by
  unfold boundsSent boundsArgument
  split_ifs <;> rfl

theorem boundsText_inj {r r' : Rect}
    (h : boundsText r.left_ r.top_ r.right_ r.bottom_ =
      boundsText r'.left_ r'.top_ r'.right_ r'.bottom_) : r = r' := by
  obtain ⟨left, h⟩ := repr_blank_inj.mp h
  obtain ⟨top, h⟩ := repr_blank_inj.mp h
  obtain ⟨right, bottom⟩ := repr_blank_inj.mp h
  cases r
  cases r'
  simp_all [Int.repr_inj]

/-- The bounds of the member are not those of any launch that has bounds. -/
theorem boundsSent_eq {launchBounds : Rect}
    (h : ((boundsSent launchBounds).flatMap Argument.words).Perm
      ((boundsArgument launchBounds).flatMap Argument.words)) : launchBounds = Rect.Invalid := by
  by_contra valid
  simp only [boundsSent, boundsArgument, if_neg valid, List.flatMap_singleton, Argument.words,
    List.perm_cons] at h
  have same := boundsText_inj (List.singleton_perm_singleton.mp h)
  exact valid same.symm

/-- Categories, a component without a package and bounds do not arrive. -/
theorem needs_of_expresses {intent : Intent} {launchBounds : Rect} {stack : Stack.Id}
    (h : Expresses (launchApplication (launch intent launchBounds stack)) intent launchBounds
      stack) :
    intent.categories = [] ∧ (intent.package = "" → intent.component = "") ∧
      launchBounds = Rect.Invalid := by
  rw [launched] at h
  obtain ⟨said, perm, words⟩ := h
  have perm := perm.flatMap_right Argument.words
  rw [← List.append_cancel_left words] at perm
  simp only [arguments, List.flatMap_append] at perm
  have length := perm.length_eq
  simp only [List.length_append, boundsSent_words, length_categories] at length
  obtain ⟨shorter, same⟩ := length_targetSent intent.package intent.component
  have categories : intent.categories = [] := List.eq_nil_of_length_eq_zero (by omega)
  have sent : targetSent intent.package intent.component =
      target intent.package intent.component := same (by omega)
  refine ⟨categories, targetSent_eq_iff.mp sent, boundsSent_eq ?_⟩
  rw [categories, sent] at perm
  simpa only [List.map_nil, List.flatMap_nil, List.append_nil, List.append_assoc,
    List.perm_append_left_iff, List.perm_append_right_iff] using perm

/-- A launch arrives exactly when it has no categories, no component without a package, and no
bounds. -/
theorem launch_expressed_iff (intent : Intent) (launchBounds : Rect) (stack : Stack.Id) :
    Expresses (launchApplication (launch intent launchBounds stack)) intent launchBounds stack ↔
      intent.categories = [] ∧ (intent.package = "" → intent.component = "") ∧
        launchBounds = Rect.Invalid := by
  constructor
  · exact needs_of_expresses
  · intro ⟨categories, component, invalid⟩
    refine ⟨_, List.Perm.refl _, ?_⟩
    rw [launched, arguments, categories, ← targetSent_eq_iff.mpr component, boundsArgument,
      if_pos invalid, boundsSent, if_pos invalid]
    simp only [List.map_nil, List.append_nil]

/-- An application by its package alone. -/
def settings : Intent where
  action := ""
  uri := ""
  type := ""
  package := "com.android.settings"
  component := ""
  categories := []

/-- The bounds of a launch are not those it is made with. -/
theorem bounds_not_said : ¬ ∀ intent launchBounds stack,
    Expresses (launchApplication (launch intent launchBounds stack)) intent launchBounds stack := by
  intro h
  have bounds := (needs_of_expresses (h settings ⟨0, 0, 800, 600⟩ .Freeform)).2.2
  exact absurd bounds (by decide)

example : launchApplication (launch settings ⟨0, 0, 800, 600⟩ .Freeform) =
    ["/system/bin/am", "start", "--stack", "2", "--launch-bounds", "-1 -1 -1 -1",
      "com.android.settings"] := by decide

end Anbox.Bridge.LaunchApplication
