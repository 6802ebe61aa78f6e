import Anbox.Framework.Settings

namespace Anbox.Container

open Anbox.Framework

/-- The keys `LxcContainer` sets, whatever the version of LXC calls them, and the other list-valued
ones. -/
inductive Key where
  | lxcMountAuto
  | lxcAutodev
  | lxcConfigPtyMaxKey
  | lxcConfigTtyMaxKey
  | lxcConfigUtsNameKey
  | lxcGroupDevicesDeny
  | lxcGroupDevicesAllow
  | lxcConfigTtyDirKey
  | lxcEnvironment
  | lxcConfigInitCmdKey
  | lxcNamespaceKeep
  | lxcConfigRootfsPathKey
  | lxcConfigLogLevelKey
  | lxcConfigLogFileKey
  | lxcConsoleLogfile
  | lxcConsoleRotate
  | lxcConfigNetTypeKey
  | lxcConfigNetFlagsKey
  | lxcConfigNetLinkKey
  | lxcConfigApparmorProfileKey
  | lxcConfigIdmapKey
  | lxcMountEntry
  | lxcCgroup
  | lxcHook
  deriving DecidableEq

def listValued : Key → Bool
  | .lxcMountEntry | .lxcConfigIdmapKey | .lxcCgroup | .lxcHook => true
  | _ => false

abbrev Item := Key × String

/-- The items in force in an `lxc_container`, for each key. -/
abbrev Config := Key → List String

def Config.empty : Config := fun _ => []

structure Configuration where
  bindMounts : List (String × String)
  devices : List String
  extraProperties : List String

/-- `insert` of an unordered map: a key that is there keeps its value. -/
def Configuration.bindMountsWith (c : Configuration) (e : String × String) :
    List (String × String) :=
  if e.1 ∈ c.bindMounts.map Prod.fst then c.bindMounts else c.bindMounts ++ [e]

def insertDevice (devices : List String) (device : String) : List String :=
  if device ∈ devices then devices else devices ++ [device]

/-- What is the same for all starts of a container. -/
structure Setup where
  privileged_ : Bool
  rootfsOverlay_ : Bool
  uid : UInt32
  gid : UInt32
  ENABLE_SNAP_CONFINEMENT : Bool
  ENABLE_LXC2_SUPPORT : Bool
  rootfsDir : String
  combinedRootfsDir : String
  logDir : String
  containerStateDir : String
  containerDevicesDir : String
  basename : String → String

/-- What a start finds on the host. `binderDevice` is the device that binderfs allocates, if it is
supported. -/
structure Host where
  anbox0 : Bool
  SNAP : Bool
  binderDevice : Option String
  isDirectory : String → Bool

def unprivilegedUid : UInt32 := 100000

def androidSystemUid : UInt32 := 1000

/-- An unprivileged container outside a snap. -/
def Setup.plain : Setup where
  privileged_ := false
  rootfsOverlay_ := false
  uid := 1000
  gid := 1000
  ENABLE_SNAP_CONFINEMENT := false
  ENABLE_LXC2_SUPPORT := false
  rootfsDir := "/var/lib/anbox/rootfs"
  combinedRootfsDir := "/var/lib/anbox/combined-rootfs"
  logDir := "/var/lib/anbox/logs"
  containerStateDir := "/var/lib/anbox/state"
  containerDevicesDir := "/var/lib/anbox/devices"
  basename := fun path => ((path.splitOn "/").getLast?).getD ""

def Host.plain : Host where
  anbox0 := true
  SNAP := false
  binderDevice := none
  isDirectory := fun _ => false

namespace Setup

variable (setup : Setup)

def rootfsPath : String :=
  if setup.rootfsOverlay_ then setup.combinedRootfsDir else setup.rootfsDir

def firstItems : List Item :=
  [(.lxcMountAuto, "proc:mixed sys:mixed cgroup:mixed"),
    (.lxcAutodev, "1"),
    (.lxcConfigPtyMaxKey, "1024"),
    (.lxcConfigTtyMaxKey, "0"),
    (.lxcConfigUtsNameKey, "anbox"),
    (.lxcGroupDevicesDeny, ""),
    (.lxcGroupDevicesAllow, ""),
    (.lxcConfigTtyDirKey, ""),
    (.lxcEnvironment, "PATH=/system/bin:/system/sbin:/system/xbin"),
    (.lxcConfigInitCmdKey, "/anbox-init.sh")]

def snapItems (host : Host) : List Item :=
  if setup.ENABLE_SNAP_CONFINEMENT && host.SNAP then [(.lxcNamespaceKeep, "cgroup")] else []

def pathItems : List Item :=
  [(.lxcConfigRootfsPathKey, setup.rootfsPath),
    (.lxcConfigLogLevelKey, "0"),
    (.lxcConfigLogFileKey, setup.logDir ++ "/container.log")]

def consoleItems : List Item :=
  if setup.ENABLE_LXC2_SUPPORT then []
  else
    [(.lxcConsoleLogfile, setup.logDir ++ "/console.log"),
      (.lxcConsoleRotate, "1")]

/-- Without the bridge there is no network. -/
def setupNetwork (host : Host) : List Item :=
  if host.anbox0 then
    [(.lxcConfigNetTypeKey, "veth"),
      (.lxcConfigNetFlagsKey, "up"),
      (.lxcConfigNetLinkKey, "anbox0")]
  else []

def apparmorItems : List Item :=
  if setup.ENABLE_SNAP_CONFINEMENT then
    [(.lxcConfigApparmorProfileKey, "snap.anbox.container-manager//container")]
  else [(.lxcConfigApparmorProfileKey, "unconfined")]

def idmap (kind : String) (fromId toId range : UInt32) : Item :=
  (.lxcConfigIdmapKey,
    kind ++ " " ++ toString fromId ++ " " ++ toString toId ++ " " ++ toString range)

/-- The arithmetic is that of `unsigned int`. -/
def setupIdMap : List Item :=
  if setup.privileged_ then []
  else
    [idmap "u" 0 unprivilegedUid (androidSystemUid - 1),
      idmap "g" 0 unprivilegedUid (androidSystemUid - 1),
      idmap "u" androidSystemUid setup.uid 1,
      idmap "g" androidSystemUid setup.gid 1,
      idmap "u" (androidSystemUid + 1) (unprivilegedUid + androidSystemUid + 1)
        (100000 - setup.uid - 1),
      idmap "g" (androidSystemUid + 1) (unprivilegedUid + androidSystemUid + 1)
        (100000 - setup.gid - 1)]

def bindMounts (host : Host) (configuration : Configuration) : List (String × String) :=
  match host.binderDevice with
  | some path => configuration.bindMountsWith (path, "/dev/binder")
  | none => configuration.bindMounts

def bindMountItem (host : Host) (e : String × String) : Item :=
  let createType := if host.isDirectory e.1 then "dir" else "file"
  let targetPath := if e.2.startsWith "/" then e.2 else "/" ++ e.2
  (.lxcMountEntry,
    e.1 ++ " " ++ setup.rootfsPath ++ targetPath ++ " none bind,create=" ++ createType ++
      ",optional 0 0")

def devices (host : Host) (configuration : Configuration) : List String :=
  let devices := if host.binderDevice.isNone then insertDevice configuration.devices "/dev/binder"
    else configuration.devices
  ["/dev/console", "/dev/full", "/dev/null", "/dev/random", "/dev/tty", "/dev/urandom", "/dev/zero",
    "/dev/tun", "/dev/ashmem"].foldl insertDevice devices

/-- The node of the device is made under its basename, and mounted without a leading slash. -/
def addDevice (device : String) : Item :=
  let newDevicePath := setup.containerDevicesDir ++ "/" ++ setup.basename device
  let targetPath := if device.startsWith "/" then (device.drop 1).toString else device
  (.lxcMountEntry, newDevicePath ++ " " ++ targetPath ++ " none bind,create=file,optional 0 0")

def propertyItems (configuration : Configuration) : List Item :=
  if configuration.extraProperties = [] then []
  else
    [(.lxcMountEntry, setup.containerStateDir ++ "/default.prop " ++ setup.rootfsPath ++
      "/default.prop none bind,optional,ro 0 0")]

/-- The items a start sets, in order. -/
def items (host : Host) (configuration : Configuration) : List Item :=
  firstItems ++ setup.snapItems host ++ setup.pathItems ++ setup.consoleItems ++
    setupNetwork host ++ setup.apparmorItems ++ setup.setupIdMap ++
    (bindMounts host configuration).map (setup.bindMountItem host) ++
    (devices host configuration).map setup.addDevice ++ setup.propertyItems configuration

end Setup

/-- The state of a container as it is recorded. -/
inductive State where
  | inactive
  | running
  deriving DecidableEq

/-- `running` says whether the container of this name runs, whatever was recorded. -/
structure LxcContainer where
  state_ : State
  container_ : Option Config
  running : Bool

/-- A start: its configuration, the host it finds, and what comes of its steps. It raises behind
`configured` items, when that is some number. -/
structure Attempt where
  configuration : Configuration
  host : Host
  root : Bool
  stopped : Bool
  created : Bool
  configured : Option Nat
  saved : Bool
  started : Bool

/-- An attempt none of whose steps fails. -/
def Attempt.succeeds (configuration : Configuration) (host : Host) : Attempt where
  configuration := configuration
  host := host
  root := true
  stopped := true
  created := true
  configured := none
  saved := true
  started := true

namespace LxcContainer

def init (running : Bool) : LxcContainer := { state_ := .inactive, container_ := none, running }

/-- The `lxc_container` is there and runs. -/
def isRunning (s : LxcContainer) : Bool := s.container_.isSome && s.running

/-- A container that runs is stopped, without a look at what comes of it. -/
def stopContainer (s : LxcContainer) (stopped : Bool) : LxcContainer :=
  if s.isRunning then { s with running := !stopped } else s

def setItems (s : LxcContainer) (items : List Item) : LxcContainer :=
  { s with container_ := s.container_.map fun c => Framework.setItems listValued c items }

/-- An `lxc_container` is kept for the next starts. What still runs under its name is stopped. -/
def create (s : LxcContainer) (a : Attempt) : Except LxcContainer LxcContainer :=
  match s.container_ with
  | some _ => .ok s
  | none =>
    if a.created = false then .error s
    else .ok ({ s with container_ := some .empty }.stopContainer a.stopped)

/-- The part of `start` before the items are set. -/
def prepare (s : LxcContainer) (a : Attempt) : Except LxcContainer LxcContainer :=
  if a.root = false then .error s else (s.stopContainer a.stopped).create a

/-- The items are set, until one of the steps raises. -/
def configure (setup : Setup) (s : LxcContainer) (a : Attempt) : Except LxcContainer LxcContainer :=
  match a.configured with
  | some n => .error (s.setItems ((setup.items a.host a.configuration).take n))
  | none => .ok (s.setItems (setup.items a.host a.configuration))

def launch (s : LxcContainer) (a : Attempt) : Except LxcContainer LxcContainer :=
  if a.saved = false then .error s
  else if a.started = false then .error s
  else .ok { s with running := true, state_ := .running }

/-- An exception leaves the container as it is then. -/
def start (setup : Setup) (s : LxcContainer) (a : Attempt) : Except LxcContainer LxcContainer :=
  (s.prepare a).bind fun s => (s.configure setup a).bind fun s => s.launch a

def stop (s : LxcContainer) (stopped : Bool) : Except LxcContainer LxcContainer :=
  if s.isRunning = false then .ok s
  else if stopped = false then .error s
  else .ok { s with running := false, state_ := .inactive }

end LxcContainer

end Anbox.Container
