import Anbox.Common.ProgramPath
import Anbox.Framework.Nesting

namespace Anbox.Fydeos.ContainerMounts

open Anbox.Framework
open Anbox.Utils (text findProgramOnPath)

abbrev Path := List UInt8

def MS_RDONLY : UInt64 := 1
def MS_BIND : UInt64 := 4096
def MS_PRIVATE : UInt64 := 0x40000
def MS_MGC_VAL : UInt64 := 0xC0ED0000

def unprivilegedUserId : UInt32 := 656360

/-- How a step ends: it is done, the function returns false or an exception is thrown. -/
inductive Outcome where
  | done
  | refused
  | thrown
  deriving DecidableEq

/-- What comes next is done only after what is done. -/
def Outcome.andThen : Outcome → Outcome → Outcome
  | .done, next => next
  | other, _ => other

/-- The arguments and settings of the program, and what the system answers to its calls.
`exists_` and `createDirectory` are `none` where an exception is thrown, and `createDirectories` says
that none is. -/
structure World where
  androidImgPath_ : Path
  dataDir : Path
  enableRootfsOverlay_ : Bool
  PATH : Path
  stat : Path → Option UInt32
  exists_ : Path → Option Bool
  isMounted : Path → Bool
  createDirectory : Path → Option Bool
  createDirectories : Path → Bool
  newDevice : Option Path
  attachFile : Path → Bool
  exec : Path → List Path → Outcome
  chown : Path → UInt32 → UInt32 → Bool
  mount : Path → Path → Path → UInt64 → Path → Bool

/-- The mount entries in their order, and what has been mounted and unmounted. -/
structure State where
  mounts_ : List Path
  events : List (Nesting Path)

def State.push (s : State) (target : Path) : State :=
  { mounts_ := s.mounts_ ++ [target], events := s.events ++ [.opened target] }

/-- A vector destroys its elements from the first to the last. -/
def State.clear (s : State) : State :=
  { mounts_ := [], events := s.events ++ s.mounts_.map .closed }

/-- A path and a name: a slash stands between them. -/
def join (path name : Path) : Path :=
  if path = [] ∨ path.getLast? = some 47 then path ++ name else path ++ 47 :: name

namespace World

variable (w : World)

def androidImgPath : Path :=
  let path := w.androidImgPath_ ++ text "/android.img"
  if path = [] then join w.dataDir (text "android.img") else path

def androidRootfsDir : Path := w.androidImgPath_ ++ text "/rootfs"

def rootfsDir : Path := join w.dataDir (text "rootfs")

def overlayDir : Path := join w.dataDir (text "rootfs-overlay")

def combinedRootfsDir : Path := join w.dataDir (text "combined-rootfs")

def finalAndroidRootfsDir : Path :=
  if w.enableRootfsOverlay_ then w.combinedRootfsDir else w.androidRootfsDir

/-- The kernel mounts the image, from a loop device. -/
def mountLoop : Outcome :=
  match w.newDevice with
  | none => .refused
  | some path =>
    if ¬ w.attachFile w.androidImgPath then .refused
    else if ¬ w.mount path w.androidRootfsDir (text "squashfs") (MS_MGC_VAL ||| MS_RDONLY ||| MS_PRIVATE) []
    then .refused
    else .done

def mountArgs : List Path :=
  [text "-t", text "fuse.squashfuse", text "-o", text "allow_other", w.androidImgPath,
    w.androidRootfsDir]

def ifExists (path : Path) (yes no : Outcome) : Outcome :=
  match w.exists_ path with
  | none => .thrown
  | some true => yes
  | some false => no

/-- The image is mounted by the kernel where there are loop devices, and else by squashfuse. -/
def mountImage : Outcome :=
  w.ifExists (text "/dev/loop-control") w.mountLoop
    (w.ifExists (text "/dev/fuse")
      (if findProgramOnPath w.stat w.PATH (text "squashfuse") ≠ [] then
        w.exec (text "/bin/mount") w.mountArgs
      else .refused)
      .refused)

/-- What is done for the rootfs. -/
def rootfs : Outcome :=
  w.ifExists w.androidImgPath
    (if w.isMounted w.androidRootfsDir then .refused
    else
      w.ifExists w.androidRootfsDir w.mountImage
        (match w.createDirectory w.androidRootfsDir with
        | none => .thrown
        | some _ => w.mountImage))
    .refused

def makeDirectories (path : Path) : Outcome :=
  w.ifExists path .done (if w.createDirectories path then .done else .thrown)

/-- What is done for the overlay. -/
def overlay : Outcome :=
  let overlayConfig := text "lowerdir=" ++ w.overlayDir ++ text ":" ++ w.rootfsDir
  (w.makeDirectories w.combinedRootfsDir).andThen
    ((w.makeDirectories w.overlayDir).andThen
      (if w.mount (text "overlay") w.combinedRootfsDir (text "overlay") MS_RDONLY overlayConfig then .done
      else .refused))

def owner (dirName : Path) : UInt32 :=
  if dirName = text "cache" then unprivilegedUserId - 1000 else unprivilegedUserId

/-- What is done for a directory that is shared with the host. -/
def shared (dirName : Path) : Outcome :=
  let srcDirPath := join w.dataDir dirName
  let bind : Outcome :=
    if w.mount srcDirPath (join w.finalAndroidRootfsDir dirName) []
      (MS_MGC_VAL ||| MS_BIND ||| MS_PRIVATE) [] then .done else .refused
  w.ifExists srcDirPath bind
    (match w.createDirectory srcDirPath with
    | none => .thrown
    | some false => .refused
    | some true => if ¬ w.chown srcDirPath (owner dirName) (owner dirName) then .refused else bind)

/-- What is done for the views of the sdcard. -/
def sdcard : Outcome :=
  if [text "default", text "read", text "write"].all fun dirName =>
      w.createDirectories (text "/run/arc/sdcard/" ++ dirName ++ text "/emulated")
  then .done else .thrown

end World

/-- How the function ends when it does not go on, and what it leaves. -/
abbrev Stopped := Outcome × State

/-- What was mounted is kept, and a refusal clears all mounts. -/
def attempt (s : State) (target : Path) : Outcome → Except Stopped State
  | .done => .ok (s.push target)
  | .refused => .error (.refused, s.clear)
  | .thrown => .error (.thrown, s)

def setupRootfsOverlay (w : World) (s : State) : Except Stopped State :=
  attempt s w.combinedRootfsDir w.overlay

def mountOverlay (w : World) (s : State) : Except Stopped State :=
  if w.enableRootfsOverlay_ then setupRootfsOverlay w s else .ok s

def mountShared (w : World) (s : State) (dirName : Path) : Except Stopped State :=
  attempt s (join w.finalAndroidRootfsDir dirName) (w.shared dirName)

/-- Nothing is mounted yet where the rootfs is refused. -/
def mountRootfs (w : World) (s : State) : Except Stopped State :=
  match w.rootfs with
  | .done => .ok (s.push w.androidRootfsDir)
  | other => .error (other, s)

def setupSdcard (w : World) (s : State) : Except Stopped State :=
  match w.sdcard with
  | .done => .ok s
  | other => .error (other, s)

def setupMounts (w : World) : Except Stopped State := do
  let s ← mountRootfs w { mounts_ := [], events := [] }
  let s ← mountOverlay w s
  let s ← [text "cache", text "data"].foldlM (mountShared w) s
  let s ← setupSdcard w s
  .ok { s with mounts_ := s.mounts_.reverse }

/-- The end of the program: the mounts that are left go, unless an exception has ended it. -/
def leave : Except Stopped State → List (Nesting Path)
  | .ok s => s.clear.events
  | .error (.thrown, s) => s.events
  | .error (_, s) => s.clear.events

def main (w : World) : List (Nesting Path) := leave (setupMounts w)

/-- A mount point lies beneath another one. -/
def beneath (target path : Path) : Bool := (target ++ [47]).isPrefixOf path

/-! The mounts behind that of the rootfs. -/

section

variable (w : World)

/-- What is mounted behind the rootfs, and what is done for it. -/
def mounts : List (Path × Outcome) :=
  (if w.enableRootfsOverlay_ then [(w.combinedRootfsDir, w.overlay)] else []) ++
    [text "cache", text "data"].map fun dirName => (join w.finalAndroidRootfsDir dirName, w.shared dirName)

/-- What comes after the rootfs has been mounted. -/
def later : List Outcome := (mounts w).map Prod.snd ++ [w.sdcard]

/-- Everything is done after the rootfs has been mounted, or the first that comes is refused. -/
def Orderly : Prop := w.rootfs = .done → (∀ o ∈ later w, o = .done) ∨ (later w).head? = some .refused

end

def made (targets : List Path) : State := ⟨targets, targets.map .opened⟩

theorem made_push (targets : List Path) (target : Path) :
    (made targets).push target = made (targets ++ [target]) := by
  simp [made, State.push]

/-- What has been mounted and is unmounted in the end, from some mounts on. -/
def ends (sdcard : Outcome) (targets : List Path) : List (Path × Outcome) → List Path × List Path
  | [] => (targets, if sdcard = .done then targets.reverse else [])
  | (target, .done) :: steps => ends sdcard (targets ++ [target]) steps
  | (_, .refused) :: _ => (targets, targets)
  | (_, .thrown) :: _ => (targets, [])

theorem sdcard_cases (w : World) : w.sdcard = .done ∨ w.sdcard = .thrown := by
  unfold World.sdcard
  split_ifs
  · exact .inl rfl
  · exact .inr rfl

/-- The rest of the function, with the end of the program. -/
def rest (w : World) (s : State) (steps : List (Path × Outcome)) : List (Nesting Path) :=
  leave do
    let s ← steps.foldlM (fun s p => attempt s p.1 p.2) s
    let s ← setupSdcard w s
    .ok { s with mounts_ := s.mounts_.reverse }

theorem rest_eq (w : World) (targets : List Path) (steps : List (Path × Outcome)) :
    rest w (made targets) steps =
      (ends w.sdcard targets steps).1.map .opened ++ (ends w.sdcard targets steps).2.map .closed := by
  induction steps generalizing targets with
  | nil =>
    rw [rest, List.foldlM_nil, pure_bind, ends]
    obtain done | thrown := sdcard_cases w
    · have goes : setupSdcard w (made targets) = .ok (made targets) := by rw [setupSdcard, done]
      rw [goes, if_pos done]
      rfl
    · have stops : setupSdcard w (made targets) = .error (.thrown, made targets) := by
        rw [setupSdcard, thrown]
      rw [stops, if_neg (thrown ▸ nofun)]
      exact (List.append_nil _).symm
  | cons p steps ih =>
    obtain ⟨target, o⟩ := p
    cases o with
    | done =>
      have next := ih (targets ++ [target])
      rw [← made_push] at next
      exact next
    | refused => exact List.append_nil _
    | thrown => exact (List.append_nil _).symm

theorem mountOverlay_eq (w : World) (s : State) : mountOverlay w s =
    (if w.enableRootfsOverlay_ then [(w.combinedRootfsDir, w.overlay)] else []).foldlM
      (fun s p => attempt s p.1 p.2) s := by
  unfold mountOverlay
  split_ifs
  · rw [List.foldlM_cons]
    exact (bind_pure _).symm
  · rfl

/-- Behind the rootfs one mount comes after the other. -/
theorem main_eq {w : World} (h : w.rootfs = .done) :
    main w = rest w (made [w.androidRootfsDir]) (mounts w) := by
  have rootfs : mountRootfs w ⟨[], []⟩ = .ok (made [w.androidRootfsDir]) := by
    rw [mountRootfs, h]
    rfl
  rw [main, rest, setupMounts, rootfs, mounts, List.foldlM_append, bind_assoc, ← mountOverlay_eq]
  rfl

theorem nil_ne_reverse (x : Path) (xs : List Path) : [] ≠ (x :: xs).reverse := by
  intro none
  exact List.cons_ne_nil _ _ (List.reverse_eq_nil_iff.mp none.symm)

theorem ends_reverse_iff (sdcard : Outcome) {x : Path} {xs : List Path} (more : xs ≠ []) (other : x ∉ xs)
    (steps : List (Path × Outcome)) (apart : x ∉ steps.map Prod.fst) :
    (ends sdcard (x :: xs) steps).2 = (ends sdcard (x :: xs) steps).1.reverse ↔
      ∀ o ∈ steps.map Prod.snd ++ [sdcard], o = .done := by
  induction steps generalizing xs with
  | nil =>
    rw [ends]
    by_cases done : sdcard = .done
    · rw [if_pos done]
      refine iff_of_true rfl ?_
      intro o there
      exact List.mem_singleton.mp there ▸ done
    · rw [if_neg done]
      exact iff_of_false (nil_ne_reverse x xs) fun all => done (all sdcard List.mem_cons_self)
  | cons p steps ih =>
    obtain ⟨target, o⟩ := p
    obtain ⟨here, behind⟩ := List.ne_and_not_mem_of_not_mem_cons apart
    cases o with
    | done =>
      have longer : xs ++ [target] ≠ [] := List.append_ne_nil_of_left_ne_nil more _
      have apart : x ∉ xs ++ [target] := by
        intro inside
        obtain old | new := List.mem_append.mp inside
        · exact other old
        · exact here (List.mem_singleton.mp new)
      have next := ih longer apart behind
      rw [ends, List.cons_append, next]
      simp
    | refused =>
      refine iff_of_false (Nesting.reverse_ne more other) ?_
      intro all
      cases all .refused List.mem_cons_self
    | thrown =>
      refine iff_of_false (nil_ne_reverse x xs) ?_
      intro all
      cases all .thrown List.mem_cons_self

/-- Paths that end in different names of one length are different. -/
theorem apart {p q u v : Path} (length : u.length = v.length) (ne : u ≠ v) : p ++ u ≠ q ++ v := by
  intro same
  exact ne (List.append_inj' same length).2

theorem join_eq (path name : Path) : ∃ front, join path name = front ++ name := by
  unfold join
  split_ifs
  · exact ⟨path, rfl⟩
  · exact ⟨path ++ [47], by rw [List.append_assoc]; rfl⟩

/-- Nothing else is mounted where the rootfs is. -/
theorem rootfs_apart (w : World) : w.androidRootfsDir ∉ (mounts w).map Prod.fst := by
  have split (front back : Path) (both : text "/rootfs" = front ++ back) :
      w.androidRootfsDir = (w.androidImgPath_ ++ front) ++ back := by
    rw [World.androidRootfsDir, both, List.append_assoc]
  have shared (name : Path) (front back : Path) (both : text "/rootfs" = front ++ back)
      (length : back.length = name.length) (ne : back ≠ name) :
      w.androidRootfsDir ≠ join w.finalAndroidRootfsDir name := by
    obtain ⟨path, joined⟩ := join_eq w.finalAndroidRootfsDir name
    rw [split front back both, joined]
    exact apart length ne
  have combined : w.androidRootfsDir ≠ w.combinedRootfsDir := by
    obtain ⟨path, joined⟩ := join_eq w.dataDir (text "combined-rootfs")
    have last : text "combined-rootfs" = text "combined" ++ text "-rootfs" := by decide
    have length : (text "/rootfs").length = (text "-rootfs").length := by decide
    have ne : text "/rootfs" ≠ text "-rootfs" := by decide
    rw [World.combinedRootfsDir, joined, last, ← List.append_assoc]
    exact apart length ne
  have cache := shared (text "cache") (text "/r") (text "ootfs") (by decide) (by decide) (by decide)
  have data := shared (text "data") (text "/ro") (text "otfs") (by decide) (by decide) (by decide)
  intro inside
  obtain ⟨p, there, same⟩ := List.mem_map.mp inside
  obtain first | second := List.mem_append.mp there
  · split_ifs at first
    · obtain rfl := List.mem_singleton.mp first
      exact combined same.symm
    · cases first
  · obtain ⟨name, either, rfl⟩ := List.mem_map.mp second
    obtain rfl | last := List.mem_cons.mp either
    · exact cache same.symm
    · obtain rfl := List.mem_singleton.mp last
      exact data same.symm

theorem mounts_ne_nil (w : World) : mounts w ≠ [] := List.append_ne_nil_of_right_ne_nil _ (List.cons_ne_nil _ _)

/-- The rootfs alone goes in any order. -/
theorem ends_iff {sdcard : Outcome} {x : Path} {steps : List (Path × Outcome)} (more : steps ≠ [])
    (apart : x ∉ steps.map Prod.fst) :
    (ends sdcard [x] steps).2 = (ends sdcard [x] steps).1.reverse ↔
      (∀ o ∈ steps.map Prod.snd ++ [sdcard], o = .done) ∨
        (steps.map Prod.snd ++ [sdcard]).head? = some .refused := by
  cases steps with
  | nil => exact absurd rfl more
  | cons p steps =>
    obtain ⟨target, o⟩ := p
    obtain ⟨here, behind⟩ := List.ne_and_not_mem_of_not_mem_cons apart
    cases o with
    | done =>
      have other : x ∉ [target] := fun same => here (List.mem_singleton.mp same)
      have goes := ends_reverse_iff sdcard (List.cons_ne_nil target []) other steps behind
      have first : (((target, Outcome.done) :: steps).map Prod.snd ++ [sdcard]).head? ≠ some .refused := nofun
      rw [or_iff_left first, List.map_cons, List.cons_append, List.forall_mem_cons, and_iff_right rfl]
      exact goes
    | refused => exact iff_of_true rfl (.inr rfl)
    | thrown =>
      refine iff_of_false nofun ?_
      intro either
      obtain all | first := either
      · cases all .thrown List.mem_cons_self
      · cases first

/-- Without the rootfs nothing is mounted. -/
theorem main_nil {w : World} (h : w.rootfs ≠ .done) : main w = [] := by
  unfold main setupMounts mountRootfs
  cases rootfs : w.rootfs with
  | done => exact absurd rootfs h
  | refused => rfl
  | thrown => rfl

/-- The mounts are undone as they should be where the rootfs is not mounted, everything after it is
done, or the first that comes after it is refused. -/
theorem main_unwound_iff (w : World) : Nesting.Unwound beneath (main w) ↔ Orderly w := by
  by_cases h : w.rootfs = .done
  · rw [main_eq h, rest_eq, Nesting.unwound_iff, ends_iff (mounts_ne_nil w) (rootfs_apart w)]
    exact (imp_iff_right h).symm
  · rw [main_nil h]
    exact iff_of_true ⟨rfl, trivial, rfl⟩ fun done => absurd done h

/-- The directory `data` cannot be mounted: the rootfs is to go while `cache` is mounted beneath it. -/
theorem rootfs_unmounted_first : ¬ ∀ w : World, Nesting.Unwound beneath (main w) := by
  intro h
  let w : World :=
    { androidImgPath_ := text "/img"
      dataDir := text "/d"
      enableRootfsOverlay_ := false
      PATH := []
      stat := fun _ => none
      exists_ := fun _ => some true
      isMounted := fun _ => false
      createDirectory := fun _ => some true
      createDirectories := fun _ => true
      newDevice := some (text "/dev/loop0")
      attachFile := fun _ => true
      exec := fun _ _ => .done
      chown := fun _ _ _ => true
      mount := fun src _ _ _ _ => src ≠ text "/d/data" }
  have order := (h w).order
  exact absurd order (by decide)

end Anbox.Fydeos.ContainerMounts
