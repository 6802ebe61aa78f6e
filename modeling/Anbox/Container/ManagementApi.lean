import Anbox.Container.LxcContainer
import Anbox.Framework.Table

namespace Anbox.Container.ManagementApi

open Anbox.Framework

structure DeviceSpecification where
  permission : BitVec 32
  oldDeviceName : String
  deriving DecidableEq

/-- The device whose properties `LxcContainer::add_device` takes for the new node. -/
def DeviceSpecification.source (spec : DeviceSpecification) (device : String) : String :=
  if spec.oldDeviceName ≠ "" then spec.oldDeviceName else device

/-- The whole of a `container::Configuration`. -/
structure Configuration where
  bindMounts : AList fun _ : String => String
  devices : AList fun _ : String => DeviceSpecification
  extraProperties : List String

/-- Two configurations are equal: the order in which an unordered map is walked does not count. -/
structure Configuration.Equal (c d : Configuration) : Prop where
  bindMounts : ∀ source, c.bindMounts.lookup source = d.bindMounts.lookup source
  devices : ∀ path, c.devices.lookup path = d.devices.lookup path
  extraProperties : c.extraProperties = d.extraProperties

/-! The messages of `anbox_container.proto`. -/

structure BindMountMessage where
  source : String
  target : String

structure DeviceMessage where
  path : String
  permission : BitVec 32

structure StartContainer where
  bindMounts : List BindMountMessage
  devices : List DeviceMessage
  extraProperties : List String

/-- `ManagementApiStub::start_container`. -/
def Stub.startContainer (configuration : Configuration) : StartContainer where
  bindMounts := configuration.bindMounts.entries.map fun item => ⟨item.1, item.2⟩
  devices := configuration.devices.entries.map fun item => ⟨item.1, item.2.permission⟩
  extraProperties := configuration.extraProperties

/-- `ManagementApiSkeleton::start_container`, up to the start of the container: the configuration it
is started with, or the error of the response. -/
def Skeleton.startContainer (state : State) (request : StartContainer) :
    Except String Configuration :=
  if state = .running then .error "Container is already running"
  else .ok
    { bindMounts := request.bindMounts.foldl
        (fun mounts bindMount => insertNew mounts bindMount.source bindMount.target) ∅
      devices := request.devices.foldl
        (fun devices device => insertNew devices device.path ⟨device.permission, ""⟩) ∅
      extraProperties := request.extraProperties }

/-- What becomes of a device on the way. -/
def DeviceSpecification.passed (spec : DeviceSpecification) : DeviceSpecification :=
  ⟨spec.permission, ""⟩

theorem DeviceSpecification.passed_eq_iff {spec : DeviceSpecification} :
    spec.passed = spec ↔ spec.oldDeviceName = "" := by
  cases spec
  simp [passed, eq_comm]

/-- The configuration the container is started with: only the names of the old devices are gone. -/
structure Passed (c passed : Configuration) : Prop where
  bindMounts : ∀ source, passed.bindMounts.lookup source = c.bindMounts.lookup source
  devices : ∀ path,
    passed.devices.lookup path = (c.devices.lookup path).map DeviceSpecification.passed
  extraProperties : passed.extraProperties = c.extraProperties

theorem startContainer_passes (c : Configuration) :
    ∃ passed, Skeleton.startContainer .inactive (Stub.startContainer c) = .ok passed ∧
      Passed c passed := by
  refine ⟨_, if_neg (by decide), ?_, ?_, rfl⟩
  · intro source
    dsimp only [Stub.startContainer]
    rw [lookup_foldl_insertNew BindMountMessage.source, List.find?_map, Option.map_map,
      AList.lookup_empty, Option.none_or, ← find_entries]
    rfl
  · intro path
    dsimp only [Stub.startContainer]
    rw [lookup_foldl_insertNew DeviceMessage.path, List.find?_map, Option.map_map,
      AList.lookup_empty, Option.none_or, ← find_entries, Option.map_map]
    rfl

/-- A configuration arrives as it was sent exactly when no device is to be made from another one. -/
theorem configuration_survives_iff (c : Configuration) :
    (∃ passed, Skeleton.startContainer .inactive (Stub.startContainer c) = .ok passed ∧
      passed.Equal c) ↔
      ∀ path spec, c.devices.lookup path = some spec → spec.oldDeviceName = "" := by
  obtain ⟨passed, started, fields⟩ := startContainer_passes c
  constructor
  · intro survives path spec there
    obtain ⟨other, started', equal⟩ := survives
    obtain rfl := Except.ok.inj (started.symm.trans started')
    have same := fields.devices path
    rw [equal.devices path, there, Option.map_some] at same
    exact DeviceSpecification.passed_eq_iff.mp (Option.some.inj same).symm
  · intro unnamed
    refine ⟨passed, started, fields.bindMounts, ?_, fields.extraProperties⟩
    intro path
    rw [fields.devices path]
    cases there : c.devices.lookup path with
    | none => rfl
    | some spec =>
      rw [Option.map_some, DeviceSpecification.passed_eq_iff.mpr (unnamed path spec there)]

/-- A device that is to be made from another one is made from what its own name stands for. -/
theorem source_passed (spec : DeviceSpecification) (device : String) :
    spec.passed.source device = device := if_neg (by simp [DeviceSpecification.passed])

/-- The container's `/dev/tun` is to be made from the host's `/dev/net/tun`. -/
def tun : Configuration where
  bindMounts := ∅
  devices := AList.singleton "/dev/tun" ⟨0o660, "/dev/net/tun"⟩
  extraProperties := []

theorem old_name_lost : ¬ ∀ c : Configuration, ∃ passed,
    Skeleton.startContainer .inactive (Stub.startContainer c) = .ok passed ∧ passed.Equal c := by
  intro h
  obtain ⟨passed, started, equal⟩ := h tun
  obtain rfl := Except.ok.inj started
  exact absurd (equal.devices "/dev/tun") (by decide)

end Anbox.Container.ManagementApi
