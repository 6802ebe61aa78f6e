import Anbox.Container.ManagementApi
import Mathlib.Tactic.IntervalCases

namespace Anbox.Container.DeviceNode

open Anbox.Container.ManagementApi (DeviceSpecification)

/-! Numbers of devices: `dev_t` has 64 bits, `int` and `mode_t` have 32. -/

/-- `makedev` for the numbers Linux gives out. -/
def makedev (major : BitVec 12) (minor : BitVec 20) : BitVec 64 :=
  (minor.setWidth 64 &&& 0xff) ||| (major.setWidth 64 <<< 8) ||| ((minor.setWidth 64 &&& ~~~0xff) <<< 12)

def deviceMajor (dev : BitVec 64) : BitVec 32 :=
  (((dev >>> 8) &&& 0xfff) ||| ((dev >>> 32) &&& 0xfffff000)).setWidth 32

def deviceMinor (dev : BitVec 64) : BitVec 32 :=
  ((dev &&& 0xff) ||| ((dev >>> 12) &&& 0xffffff00)).setWidth 32

/-- The operator `!`, which is not `~`: of a number it leaves 0 or 1. -/
def logicalNot (n : BitVec 32) : BitVec 32 := if n = 0 then 1 else 0

/-- The number that is passed on as a `dev_t`. -/
def encodedDeviceNumber (major minor : BitVec 32) : BitVec 64 :=
  ((minor &&& 0xff) ||| (major <<< 8) ||| ((minor &&& logicalNot 0xff) <<< 12)).signExtend 64

structure Stat where
  stRdev : BitVec 64
  stMode : BitVec 32
  stUid : BitVec 32
  stGid : BitVec 32

def S_IFMT : BitVec 32 := 0o170000

def mode (st : Stat) (spec : DeviceSpecification) : BitVec 32 :=
  ((st.stMode >>> 9) <<< 9) ||| (spec.permission &&& ~~~((1 : BitVec 32) <<< 9))

inductive Call where
  | mknod (path : String) (mode : BitVec 32) (dev : BitVec 64)
  | chown (path : String) (uid gid : BitVec 32)
  | chmod (path : String) (mode : BitVec 32)

/-- What the system answers: `strerror` is for the calls that fail. -/
structure Kernel where
  stat : String → Option Stat
  strerror : Call → Option String

def Kernel.call (kernel : Kernel) (c : Call) (message : String) : Except String Call :=
  match kernel.strerror c with
  | none => .ok c
  | some error => .error (message ++ ": " ++ error)

/-- The calls that have been made for the node, and the item that mounts it. -/
def addDevice (kernel : Kernel) (setup : Setup) (device : String) (spec : DeviceSpecification) :
    Except String (List Call × Item) := do
  let some st := kernel.stat (spec.source device)
    | .error ("Failed to retrieve information about device " ++ device)
  let newDevicePath := setup.containerDevicesDir ++ "/" ++ setup.basename device
  let dev := encodedDeviceNumber (deviceMajor st.stRdev) (deviceMinor st.stRdev)
  let made ← kernel.call (.mknod newDevicePath (mode st spec) dev)
    ("Failed to create node for device " ++ device)
  let baseUid : BitVec 32 := if setup.privileged_ then 0 else unprivilegedUid.toBitVec
  let owned ← kernel.call (.chown newDevicePath (baseUid + st.stUid) (baseUid + st.stGid))
    ("Failed to change ownership of new node for " ++ device)
  let changed ← kernel.call (.chmod newDevicePath (mode st spec))
    ("Failed to change mode of new node for " ++ device)
  return ([made, owned, changed], setup.addDevice device)

/-! What is wanted. -/

/-- The calls make the device of these numbers with the type of the source, and its low nine mode bits
are the permission. -/
structure Faithful (major : BitVec 12) (minor : BitVec 20) (stMode permission : BitVec 32)
    (calls : List Call) : Prop where
  number : ∀ path mode dev, .mknod path mode dev ∈ calls →
    deviceMajor dev = major.setWidth 32 ∧ deviceMinor dev = minor.setWidth 32
  type : ∀ path mode dev, .mknod path mode dev ∈ calls → mode &&& S_IFMT = stMode &&& S_IFMT
  permission : ∀ path mode, .chmod path mode ∈ calls → mode &&& 0o777 = permission &&& 0o777

/-- The minor fits the eight bits that are kept, and the permission has no bit of a type that the source
has not. -/
def Encodable (minor : BitVec 20) (stMode permission : BitVec 32) : Prop :=
  minor < 256 ∧ permission &&& S_IFMT &&& ~~~stMode = 0

/-! Numbers. -/

theorem deviceMajor_makedev (major : BitVec 12) (minor : BitVec 20) :
    deviceMajor (makedev major minor) = major.setWidth 32 := by
  ext i hi
  simp only [deviceMajor, makedev, BitVec.getElem_setWidth, BitVec.getLsbD_or, BitVec.getLsbD_and,
    BitVec.getLsbD_ushiftRight, BitVec.getLsbD_shiftLeft, BitVec.getLsbD_setWidth,
    BitVec.getLsbD_not]
  interval_cases i <;> simp

theorem deviceMinor_makedev (major : BitVec 12) (minor : BitVec 20) :
    deviceMinor (makedev major minor) = minor.setWidth 32 := by
  ext i hi
  simp only [deviceMinor, makedev, BitVec.getElem_setWidth, BitVec.getLsbD_or, BitVec.getLsbD_and,
    BitVec.getLsbD_ushiftRight, BitVec.getLsbD_shiftLeft, BitVec.getLsbD_setWidth,
    BitVec.getLsbD_not]
  interval_cases i <;> simp

/-- The number that is encoded is one with the low eight bits of the minor. -/
theorem encodedDeviceNumber_eq (major : BitVec 12) (minor : BitVec 20) :
    encodedDeviceNumber (major.setWidth 32) (minor.setWidth 32) = makedev major (minor &&& 0xff) := by
  have no_mask : logicalNot 0xff = 0 := rfl
  -- The sign bit of the `int` is none of the number's.
  have positive : (minor.setWidth 32).msb = false := by simp [BitVec.msb_eq_getLsbD_last]
  rw [encodedDeviceNumber, no_mask]
  ext i hi
  simp only [makedev, BitVec.getElem_signExtend, BitVec.getElem_or, BitVec.getElem_and,
    BitVec.getElem_shiftLeft, BitVec.getElem_setWidth, BitVec.getLsbD_and, BitVec.getElem_not]
  interval_cases i <;> simp [positive]

theorem and_low_eq_iff (minor : BitVec 20) : minor &&& 0xff = minor ↔ minor < 256 := by
  have low : minor.toNat &&& 255 = minor.toNat % 256 := Nat.and_two_pow_sub_one_eq_mod _ 8
  have and_low : (minor &&& 0xff).toNat = minor.toNat % 256 := low
  have bound : (256 : BitVec 20).toNat = 256 := rfl
  rw [← BitVec.toNat_inj, BitVec.lt_def, and_low, bound]
  omega

/-! Modes. -/

theorem mode_type (st : Stat) (spec : DeviceSpecification) :
    mode st spec &&& S_IFMT = (st.stMode &&& S_IFMT) ||| (spec.permission &&& S_IFMT) := by
  ext i hi
  simp only [mode, S_IFMT, BitVec.getElem_or, BitVec.getElem_and, BitVec.getElem_shiftLeft,
    BitVec.getElem_not]
  interval_cases i <;> simp

theorem mode_permission (st : Stat) (spec : DeviceSpecification) :
    mode st spec &&& 0o777 = spec.permission &&& 0o777 := by
  ext i hi
  simp only [mode, BitVec.getElem_or, BitVec.getElem_and, BitVec.getElem_shiftLeft,
    BitVec.getElem_not]
  interval_cases i <;> simp

theorem or_eq_left_iff (a b m : BitVec 32) :
    (a &&& m) ||| (b &&& m) = a &&& m ↔ b &&& m &&& ~~~a = 0 := by
  constructor
  · intro h
    ext i hi
    have bit := congrArg (fun v => v[i]) h
    simp only [BitVec.getElem_or, BitVec.getElem_and, BitVec.getElem_not] at bit ⊢
    grind
  · intro h
    ext i hi
    have bit := congrArg (fun v => v[i]) h
    simp only [BitVec.getElem_or, BitVec.getElem_and, BitVec.getElem_not] at bit ⊢
    grind

/-! The node of a device. -/

theorem Kernel.call_eq_ok {kernel : Kernel} {c made : Call} {message : String}
    (h : kernel.call c message = .ok made) : made = c := by
  unfold Kernel.call at h
  split at h
  · exact (Except.ok.inj h).symm
  · cases h

/-- The calls of a device that is added. -/
theorem addDevice_calls {kernel : Kernel} {setup : Setup} {device : String}
    {spec : DeviceSpecification} {st : Stat} {calls : List Call} {item : Item}
    (source : kernel.stat (spec.source device) = some st)
    (added : addDevice kernel setup device spec = .ok (calls, item)) :
    ∃ path uid gid, calls =
      [.mknod path (mode st spec)
        (encodedDeviceNumber (deviceMajor st.stRdev) (deviceMinor st.stRdev)),
        .chown path uid gid, .chmod path (mode st spec)] := by
  simp only [addDevice, source, bind, Except.bind] at added
  split at added
  · cases added
  · next made mknod =>
    split at added
    · cases added
    · next owned chown =>
      split at added
      · cases added
      · next changed chmod =>
        cases Kernel.call_eq_ok mknod
        cases Kernel.call_eq_ok chown
        cases Kernel.call_eq_ok chmod
        cases added
        exact ⟨_, _, _, rfl⟩

/-- A node that is made is the device of its source, with the permission of the request, exactly when
the minor is below 256 and the permission adds nothing to the type. -/
theorem add_device_faithful_iff (kernel : Kernel) (setup : Setup) (device : String)
    (spec : DeviceSpecification) (st : Stat) (major : BitVec 12) (minor : BitVec 20)
    (calls : List Call) (item : Item) (source : kernel.stat (spec.source device) = some st)
    (issued : st.stRdev = makedev major minor)
    (added : addDevice kernel setup device spec = .ok (calls, item)) :
    Faithful major minor st.stMode spec.permission calls ↔
      Encodable minor st.stMode spec.permission := by
  obtain ⟨path, uid, gid, rfl⟩ := addDevice_calls source added
  have encoded : encodedDeviceNumber (deviceMajor st.stRdev) (deviceMinor st.stRdev) =
      makedev major (minor &&& 0xff) := by
    rw [issued, deviceMajor_makedev, deviceMinor_makedev, encodedDeviceNumber_eq]
  rw [encoded]
  constructor
  · intro given
    obtain ⟨number, type, -⟩ := given
    have decoded := (number _ _ _ List.mem_cons_self).2
    have typed := type _ _ _ List.mem_cons_self
    rw [deviceMinor_makedev] at decoded
    rw [mode_type, or_eq_left_iff] at typed
    refine ⟨(and_low_eq_iff minor).mp ?_, typed⟩
    have cut := congrArg (BitVec.setWidth 20) decoded
    simpa only [BitVec.setWidth_setWidth_of_le _ (by decide : 20 ≤ 32), BitVec.setWidth_eq] using cut
  · intro given
    obtain ⟨small, typed⟩ := given
    rw [(and_low_eq_iff minor).mpr small]
    constructor
    · intro path mode dev there
      obtain ⟨-, -, rfl⟩ : _ ∧ _ ∧ dev = _ := by simpa using there
      exact ⟨deviceMajor_makedev major minor, deviceMinor_makedev major minor⟩
    · intro path mode dev there
      obtain ⟨-, rfl, -⟩ : _ ∧ mode = _ ∧ _ := by simpa using there
      rw [mode_type, or_eq_left_iff]
      exact typed
    · intro path mode there
      obtain ⟨-, rfl⟩ : _ ∧ mode = _ := by simpa using there
      exact mode_permission st spec

/-- A system with one device, and no call that fails. -/
def oneDevice (path : String) (st : Stat) : Kernel where
  stat := fun name => if name = path then some st else none
  strerror := fun _ => none

/-- `/dev/fuse`, as the host has it. -/
def fuse : Stat := ⟨makedev 10 229, 0o020666, 0, 0⟩

theorem fuse_faithful :
    ∃ calls item, addDevice (oneDevice "/dev/fuse" fuse) .plain "/dev/fuse" ⟨0o666, ""⟩ =
      .ok (calls, item) ∧ (Faithful 10 229 0o020666 0o666 calls ↔ Encodable 229 0o020666 0o666) :=
  ⟨_, _, rfl, add_device_faithful_iff (oneDevice "/dev/fuse" fuse) .plain "/dev/fuse" ⟨0o666, ""⟩ fuse
    10 229 _ _ rfl rfl rfl⟩

/-- The 33rd input device: the minors from 256 on are given out for these. -/
def event32 : Stat := ⟨makedev 13 256, 0o020660, 0, 0⟩

theorem minor_lost : ¬ ∀ (kernel : Kernel) (setup : Setup) (device : String)
    (spec : DeviceSpecification) (st : Stat) (major : BitVec 12) (minor : BitVec 20)
    (calls : List Call) (item : Item), kernel.stat (spec.source device) = some st →
    st.stRdev = makedev major minor → addDevice kernel setup device spec = .ok (calls, item) →
    Faithful major minor st.stMode spec.permission calls := by
  intro h
  have faithful := h (oneDevice "/dev/input/event32" event32) .plain "/dev/input/event32" ⟨0o660, ""⟩
    event32 13 256 _ _ rfl rfl rfl
  have decoded := (faithful.number _ _ _ List.mem_cons_self).2
  exact absurd decoded (by decide)

end Anbox.Container.DeviceNode
