import EasyNav.Lifecycle
import EasyNav.Runs
import EasyNav.SensorExpiry
import EasyNav.TypedStores

namespace EasyNav.SensorReconfiguration

open EasyNav.DoubleArithmetic
open EasyNav.Lifecycle
open EasyNav.PointPerceptions
open EasyNav.SensorExpiry (DataState checkPerception)
open EasyNav.TypedStores

universe u

inductive SensorKind where
  | points
  | image
  | imu
  | gnss
  | detections
  | odometry
  deriving DecidableEq

/-- The types of the values on the blackboard, as `typeid` tells them apart. -/
inductive StoredType where
  | pointPerception
  | imagePerception
  | imuPerception
  | gnssPerception
  | detectionsPerception
  | odometry
  | strings
  | diagnosticStatus
  | other (name : String)
  deriving DecidableEq

instance : Inhabited StoredType := ⟨.other ""⟩

/-- A perception is shared with its handler, by its address; odometry is stored as a copy
of the message. -/
def SensorKind.storedType : SensorKind → StoredType
  | .points => .pointPerception
  | .image => .imagePerception
  | .imu => .imuPerception
  | .gnss => .gnssPerception
  | .detections => .detectionsPerception
  | .odometry => .odometry

structure Entry where
  type : StoredType
  perception : Option Nat := none
  deriving DecidableEq

abbrev TypeMismatch := Mismatch String StoredType

structure NavState where
  values : Store String Entry := fun _ => none
  groups : Store String (List String) := fun _ => none

namespace NavState

def set (nav : NavState) (key : String) (entry : Entry) : Attempt NavState TypeMismatch Unit :=
  let attempt := nav.values.set Entry.type key entry
  ({ nav with values := attempt.1 }, attempt.2)

def setGroup (nav : NavState) (key : String) (groupKeys : List String) :
    Attempt NavState TypeMismatch Unit :=
  let nav := { nav with groups := Function.update nav.groups key (some groupKeys) }
  nav.set key { type := .strings }

def groupKeys (nav : NavState) (groupKey : String) : List String := (nav.groups groupKey).getD []

def addToGroup (nav : NavState) (groupKey key : String) : Attempt NavState TypeMismatch Unit :=
  if key ∈ nav.groupKeys groupKey then (nav, .ok ())
  else nav.setGroup groupKey (nav.groupKeys groupKey ++ [key])

def getPtr (nav : NavState) (key : String) : Option Nat :=
  (nav.values key).bind fun entry =>
    if entry.type = .pointPerception then entry.perception else none

/-- `get_group<PointPerception>`: members that are of other types are left out. -/
def getGroup (nav : NavState) (groupKey : String) : Option (List Nat) :=
  (nav.groups groupKey).map fun keys => keys.filterMap nav.getPtr

/-- The point perceptions that are reachable: by a key, by a group or by their type. -/
inductive Reaches (nav : NavState) (perception : Nat) : Prop
  | byKey (key : String) (h : nav.getPtr key = some perception)
  | byGroup (groupKey : String) (perceptions : List Nat)
      (h : nav.getGroup groupKey = some perceptions) (hmem : perception ∈ perceptions)
  | byType (key : String) (entry : Entry) (h : nav.values key = some entry)
      (htype : entry.type = .pointPerception) (hperception : entry.perception = some perception)

end NavState

structure Handler where
  sensorName : String
  kind : SensorKind
  key : String
  perception : Nat

def Handler.entry (handler : Handler) : Entry where
  type := handler.kind.storedType
  perception := if handler.kind = .odometry then none else some handler.perception

/-- The parameters of a sensor; only the odometry handler has a key of its own. -/
structure SensorParameters where
  id : String
  type : String := ""
  plugin : String := ""
  group : String := ""
  navStateKey : String := id

structure Parameters where
  sensors : List SensorParameters
  forgetTime : Double := .fin 1

def typeToPlugin : List (String × String) :=
  [("sensor_msgs/msg/PointCloud2", "easynav_sensors/PointPerceptionHandler"),
    ("sensor_msgs/msg/LaserScan", "easynav_sensors/PointPerceptionHandler"),
    ("sensor_msgs/msg/Imu", "easynav_sensors/IMUPerceptionHandler"),
    ("sensor_msgs/msg/NavSatFix", "easynav_sensors/GNSSPerceptionHandler"),
    ("nav_msgs/msg/Odometry", "easynav_sensors/OdometryPerceptionHandler"),
    ("sensor_msgs/msg/Image", "easynav_sensors/ImagePerceptionHandler"),
    ("vision_msgs/msg/Detection3DArray", "easynav_sensors/DetectionsPerceptionHandler")]

def pluginDescriptions : List (String × SensorKind) :=
  [("easynav_sensors/PointPerceptionHandler", .points),
    ("easynav_sensors/IMUPerceptionHandler", .imu),
    ("easynav_sensors/GNSSPerceptionHandler", .gnss),
    ("easynav_sensors/OdometryPerceptionHandler", .odometry),
    ("easynav_sensors/ImagePerceptionHandler", .image),
    ("easynav_sensors/DetectionsPerceptionHandler", .detections)]

/-- The plugin loader, where it finds the plugins of the package and no others. -/
def packagePlugins (plugin : String) : Option SensorKind := pluginDescriptions.lookup plugin

/-- The message types that a handler accepts when it is initialized. -/
def SensorKind.messageTypes : SensorKind → List String
  | .points => ["sensor_msgs/msg/PointCloud2", "sensor_msgs/msg/LaserScan"]
  | .image => ["sensor_msgs/msg/Image"]
  | .imu => ["sensor_msgs/msg/Imu"]
  | .gnss => ["sensor_msgs/msg/NavSatFix"]
  | .detections => ["vision_msgs/msg/Detection3DArray"]
  | .odometry => ["nav_msgs/msg/Odometry"]

def SensorParameters.pluginOrDefault (sensor : SensorParameters) : String :=
  if sensor.plugin = "" then (typeToPlugin.lookup sensor.type).getD "" else sensor.plugin

/-- A member of a group, in a map that is sorted by its keys. -/
def emplaceInGroup (group name : String) : List (String × List String) → List (String × List String)
  | [] => [(group, [name])]
  | (other, names) :: rest =>
      if other = group then (other, names ++ [name]) :: rest
      else if group < other then (group, [name]) :: (other, names) :: rest
      else (other, names) :: emplaceInGroup group name rest

/-- What the node has, and all perceptions that its handlers ever allocated. Those of other
kinds than points have no buffer; theirs stays empty. -/
structure SensorsNode (C : Type u) where
  handlers : List Handler := []
  groups : List (String × List String) := []
  groupsInitialized : Bool := false
  forgetTime : Double := .fin 1
  dataStates : List DataState := []
  dataAgeReported : Bool := false
  clockType : ClockType
  perceptions : Nat → PointPerception C
  allocated : Nat := 0

variable {C : Type u}

namespace SensorsNode

def releaseHandlers (node : SensorsNode C) : SensorsNode C :=
  { node with handlers := [], groups := [], groupsInitialized := false }

variable [Inhabited C]

def addHandler (node : SensorsNode C) (sensor : SensorParameters) (kind : SensorKind) :
    SensorsNode C :=
  { node with
    handlers := node.handlers ++
      [{ sensorName := sensor.id
         kind := kind
         key := if kind = .odometry then sensor.navStateKey else sensor.id
         perception := node.allocated }]
    groups :=
      if sensor.group ≠ "" then emplaceInGroup sensor.group sensor.id node.groups
      else node.groups
    perceptions := Function.update node.perceptions node.allocated (.create default)
    allocated := node.allocated + 1 }

def loadHandlers (createSharedInstance : String → Option SensorKind) :
    List SensorParameters → SensorsNode C → SensorsNode C × CallbackReturn
  | [], node => (node, .success)
  | sensor :: sensors, node =>
      if sensor.pluginOrDefault = "" then (node, .failure)
      else
        match createSharedInstance sensor.pluginOrDefault with
        | none => (node, .failure)
        | some kind =>
            if sensor.type ∈ kind.messageTypes then
              loadHandlers createSharedInstance sensors (node.addHandler sensor kind)
            else (node, .error)

def onConfigure (node : SensorsNode C) (params : Parameters)
    (createSharedInstance : String → Option SensorKind) : SensorsNode C × CallbackReturn :=
  let node := { node with forgetTime := params.forgetTime }
  if !params.forgetTime.isFinite ∨ params.forgetTime ≤ 0 then (node, .failure)
  else
    match loadHandlers createSharedInstance params.sensors node with
    | (node, .success) =>
        ({ node with
          dataStates := List.replicate node.handlers.length .noData
          dataAgeReported := false }, .success)
    | (node, answer) => (node, answer)

def callbacks (params : Parameters) (createSharedInstance : String → Option SensorKind) :
    Callbacks (SensorsNode C) where
  on
    | .configure => fun node => node.onConfigure params createSharedInstance
    | .activate | .deactivate => fun node => (node, .success)
    | .cleanup | .shutdown => fun node => (node.releaseHandlers, .success)
  onError node := (node.releaseHandlers, .success)

end SensorsNode

structure Shared (C : Type u) where
  node : SensorsNode C
  nav : NavState

namespace Shared

variable (s : Shared C)

def onNav {α : Type} (attempt : Attempt NavState TypeMismatch α) :
    Attempt (Shared C) TypeMismatch α :=
  ({ s with nav := attempt.1 }, attempt.2)

def setPerception (perception : Nat) (p : PointPerception C) : Shared C :=
  { s with
    node := { s.node with perceptions := Function.update s.node.perceptions perception p } }

/-- `PerceptionHandler::cycle_rt`: whether there was new data. -/
def cycleHandler (handler : Handler) : Attempt (Shared C) TypeMismatch Bool :=
  (s.onNav (s.nav.set handler.key handler.entry)).andThen fun s _ =>
    let cycled := (s.node.perceptions handler.perception).cycleRt
    (s.setPerception handler.perception cycled.1, .ok cycled.2)

def cycleHandlers : List Handler → Bool → Shared C → Attempt (Shared C) TypeMismatch Bool
  | [], trigger, s => (s, .ok trigger)
  | handler :: handlers, trigger, s =>
      (s.cycleHandler handler).andThen fun s newData =>
        cycleHandlers handlers (trigger || newData) s

/-- Checks the perceptions of these handlers, one after the other. -/
def checkHandlers (forgetTime : Double) (now : Stamp) :
    List Handler → (Nat → PointPerception C) → (Nat → PointPerception C) × List DataState
  | [], perceptions => (perceptions, [])
  | handler :: handlers, perceptions =>
      let checked := checkPerception forgetTime now (perceptions handler.perception)
      let rest := checkHandlers forgetTime now handlers
        (Function.update perceptions handler.perception checked.1)
      (rest.1, checked.2 :: rest.2)

def reportDataAge : Attempt (Shared C) TypeMismatch Unit :=
  let s := { s with node := { s.node with dataAgeReported := true } }
  (s.onNav (s.nav.set "diagnostics.sensors" { type := .diagnosticStatus })).andThen fun s _ =>
    s.onNav (s.nav.addToGroup "diagnostics" "diagnostics.sensors")

/-- The ages are not checked while the node is being reconfigured. -/
def isChecked : Bool := decide (s.node.dataStates.length = s.node.handlers.length)

def checkedData (now : Time) : (Nat → PointPerception C) × List DataState :=
  checkHandlers s.node.forgetTime ⟨now, s.node.clockType⟩ s.node.handlers s.node.perceptions

/-- They changed, or have not been reported yet. -/
def reportDue (now : Time) : Bool :=
  !s.node.dataAgeReported || decide ((s.checkedData now).2 ≠ s.node.dataStates)

def checkDataAge (now : Time) : Attempt (Shared C) TypeMismatch Unit :=
  if !s.isChecked then (s, .ok ())
  else
    let checked := { s with
      node := { s.node with
        perceptions := (s.checkedData now).1
        dataStates := (s.checkedData now).2 } }
    if s.reportDue now then checked.reportDataAge else (checked, .ok ())

def setGroups : List (String × List String) → Shared C → Attempt (Shared C) TypeMismatch Unit
  | [], s => (s, .ok ())
  | group :: groups, s =>
      (s.onNav (s.nav.setGroup group.1 group.2)).andThen fun s _ => setGroups groups s

/-- `cycle`, up to the fusing of what the blackboard holds. -/
def cycle : Attempt (Shared C) TypeMismatch Unit :=
  if s.node.groupsInitialized then (s, .ok ())
  else
    (setGroups s.node.groups s).andThen fun s _ =>
      ({ s with node := { s.node with groupsInitialized := true } }, .ok ())

end Shared

/-- What a sensor's message makes of its perception. Only images may fail to decode. -/
def receive (kind : SensorKind) (message : PointPerceptionBufferType C) (decodes : Bool)
    (canTransform : String → Stamp → Bool) (p : PointPerception C) : PointPerception C :=
  if kind = .points then
    (p.setPendingCloud message.data message.frame message.stamp).integratePendingPerceptions
      canTransform
  else if kind = .image ∧ decodes = false then
    { p with stamp := message.stamp, frameId := message.frame, newData := true, valid := false }
  else p.select message

structure Sensing (C : Type u) where
  node : Managed (SensorsNode C)
  nav : NavState
  cycling : Bool

/-- Transitions, messages and RT cycles are one after the other. Other components may fuse
perceptions, or store values and grow groups of their own, at any time. -/
inductive Event (C : Type u) where
  | trigger (transition : Transition) (params : Parameters)
      (createSharedInstance : String → Option SensorKind)
  | receive (handler : Nat) (data : C) (frame : String) (stamp : Time) (decodes : Bool)
      (canTransform : String → Stamp → Bool)
  | cycleHandlers
  | checkDataAge (now : Time)
  | cycle
  | fuse (perception : Nat) (canTransform : String → Stamp → Bool)
  | set (key : String) (type : StoredType)
  | addToGroup (groupKey key : String)

namespace Sensing

variable (s : Sensing C)

def shared : Shared C := ⟨s.node.data, s.nav⟩

/-- The state after an attempt of the node, which leaves an RT cycle there. -/
def after {α : Type} (cycling : Bool) (attempt : Attempt (Shared C) TypeMismatch α) :
    Attempt (Sensing C) TypeMismatch Unit :=
  ({ node := ⟨s.node.state, attempt.1.node⟩
     nav := attempt.1.nav
     cycling := cycling }, attempt.2.map fun _ => ())

def setPerception (perception : Nat) (p : PointPerception C) : Sensing C :=
  { s with node := ⟨s.node.state, (s.shared.setPerception perception p).node⟩ }

variable [Inhabited C]

/-- One step, and what it throws if it is a cycle of the node. -/
def attempt (s : Sensing C) : Event C → Attempt (Sensing C) TypeMismatch Unit
  | .trigger transition params createSharedInstance =>
      if s.cycling then (s, .ok ())
      else
        ({ s with
          node := s.node.trigger (SensorsNode.callbacks params createSharedInstance) transition },
          .ok ())
  | .receive index data frame stamp decodes canTransform =>
      match s.node.data.handlers[index]? with
      | none => (s, .ok ())
      | some handler =>
          if s.cycling then (s, .ok ())
          else
            (s.setPerception handler.perception
              (receive handler.kind
                { data := data, frame := frame, stamp := ⟨stamp, s.node.data.clockType⟩ }
                decodes canTransform (s.node.data.perceptions handler.perception)), .ok ())
  | .cycleHandlers =>
      if s.cycling then (s, .ok ())
      else
        let attempt := s.shared.cycleHandlers s.node.data.handlers false
        s.after (decide (attempt.2.isOk)) attempt
  | .checkDataAge now =>
      if s.cycling then s.after false (s.shared.checkDataAge now) else (s, .ok ())
  | .cycle => s.after s.cycling s.shared.cycle
  | .fuse perception canTransform =>
      (s.setPerception perception
        ((s.node.data.perceptions perception).integratePendingPerceptions canTransform), .ok ())
  | .set key type => ({ s with nav := (s.nav.set key { type := type }).1 }, .ok ())
  | .addToGroup groupKey key => ({ s with nav := (s.nav.addToGroup groupKey key).1 }, .ok ())

def step (s : Sensing C) (e : Event C) : Sensing C := (s.attempt e).1

end Sensing

/-- The node after its construction, with a blackboard that is still empty. -/
def Sensing.create [Inhabited C] (clockType : ClockType) : Sensing C where
  node := ⟨.unconfigured,
    { clockType := clockType, perceptions := fun _ => PointPerception.create default }⟩
  nav := {}
  cycling := false

def IsInitial [Inhabited C] (s : Sensing C) : Prop :=
  ∃ clockType, s = Sensing.create clockType

end EasyNav.SensorReconfiguration
