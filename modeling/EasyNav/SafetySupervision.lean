import EasyNav.CommandPublication
import EasyNav.MachineNumbers

/-!
What the system node does for safety: the monitor of the safety channel, the
monitor of the real-time cycle, and the supervisor that runs both at the start of
every cycle. Monotonic times are `steady`, readings of the node's clock are `now`.
-/

namespace EasyNav.SafetySupervision

open EasyNav.ExtendedArithmetic
open EasyNav.ExtendedArithmetic.Extended
open EasyNav.DoubleArithmetic
open EasyNav.MachineNumbers
open EasyNav.SpeedLimits
open EasyNav.NavigationState
open EasyNav.CommandPublication

structure SafetyStatus where
  header : Header := {}
  protectiveStop : Bool := false
  speedLimited : Bool := false
  maxLinearVel : Double := 0
  maxAngularVel : Double := 0
  activeField : String := ""
  muting : Bool := false
  deriving DecidableEq

/-- Why the state of the safety channel is what it is. -/
inductive Condition where
  | valid
  | noStatus
  | stale
  | invalid
  deriving DecidableEq

structure Evaluation where
  state : SafetyChannelState := {}
  condition : Condition := .noStatus
  deriving DecidableEq

def Evaluation.eq (a b : Evaluation) : Bool :=
  a.state.eq b.state && decide (a.condition = b.condition)

structure SafetyChannelMonitor where
  timeout : Time := 0
  last : Option SafetyStatus := none
  lastTime : Time := 0
  lastValid : Bool := false
  deriving DecidableEq

namespace SafetyChannelMonitor

/-- Why a status is invalid, or the empty string. -/
def invalidReason (msg : SafetyStatus) : String :=
  let reason (name : String) (value : Double) : String :=
    if !value.isFinite || decide (value < 0) then
      name ++ " = " ++ stdToString value ++ " (speed_limited: >= 0)"
    else ""
  if !msg.speedLimited then ""
  else if reason "max_linear_vel" msg.maxLinearVel ≠ "" then
    reason "max_linear_vel" msg.maxLinearVel
  else reason "max_angular_vel" msg.maxAngularVel

def configure (_ : SafetyChannelMonitor) (timeout : Double) : SafetyChannelMonitor :=
  { timeout := durationCast timeout }

def received (monitor : SafetyChannelMonitor) (msg : SafetyStatus) (steady : Time) :
    SafetyChannelMonitor :=
  { monitor with
    last := some msg, lastTime := steady, lastValid := decide (invalidReason msg = "") }

def condition (monitor : SafetyChannelMonitor) (steady : Time) : Condition :=
  if monitor.last = none then .noStatus
  else if !monitor.lastValid then .invalid
  else if monitor.timeout < steady - monitor.lastTime then .stale
  else .valid

/-- What a valid status imposes. -/
def imposed (msg : SafetyStatus) : SafetyChannelState :=
  if msg.speedLimited then
    { protectiveStop := msg.protectiveStop
      maxLinearVel := msg.maxLinearVel
      maxAngularVel := msg.maxAngularVel }
  else { protectiveStop := msg.protectiveStop }

/-- The state to apply: a protective stop when nothing says the robot may move. -/
def evaluate (monitor : SafetyChannelMonitor) (steady : Time) : Evaluation :=
  match monitor.condition steady, monitor.last with
  | .valid, some last => { condition := .valid, state := imposed last }
  | condition, _ =>
      { condition := condition, state := { statusLost := true, protectiveStop := true } }

theorem invalidReason_ne_empty (name : String) (value : Double) :
    name ++ " = " ++ stdToString value ++ " (speed_limited: >= 0)" ≠ "" := by
  simp

theorem isSpeedLimit_of_valid {msg : SafetyStatus}
    (h : invalidReason msg = "") (hlimited : msg.speedLimited = true) :
    IsSpeedLimit msg.maxLinearVel ∧ IsSpeedLimit msg.maxAngularVel := by
  have hvalue : ∀ value : Double,
      ¬ (!value.isFinite || decide (value < 0)) = true → IsSpeedLimit value := by
    intro value hvalue
    cases value with
    | fin x =>
        refine Or.inr ⟨x, ?_, rfl⟩
        simpa [zero_def] using hvalue
    | nan => simp [isFinite] at hvalue
    | negInf => simp [isFinite] at hvalue
    | posInf => simp [isFinite] at hvalue
  unfold invalidReason at h
  simp only [hlimited, Bool.not_true, Bool.false_eq_true, if_false] at h
  by_cases hlinear : (!msg.maxLinearVel.isFinite || decide (msg.maxLinearVel < 0)) = true
  · simp only [hlinear, if_true] at h
    rw [if_pos (invalidReason_ne_empty _ _)] at h
    exact absurd h (invalidReason_ne_empty _ _)
  · simp only [if_neg hlinear, ne_eq, not_true_eq_false, if_false] at h
    by_cases hangular : (!msg.maxAngularVel.isFinite || decide (msg.maxAngularVel < 0)) = true
    · rw [if_pos hangular] at h
      exact absurd h (invalidReason_ne_empty _ _)
    · exact ⟨hvalue _ hlinear, hvalue _ hangular⟩

end SafetyChannelMonitor

inductive RtStatus where
  | ok
  | late
  | error
  deriving DecidableEq

/-- The two's complement value of the low 32 bits, as `static_cast<int>` gives. -/
def toInt32 (n : Int) : Int := Int.bmod n (2 ^ 32)

structure RtMonitor where
  maxPeriod : Double := 0
  maxLateCycles : Int := 1
  lastStart : Option Time := none
  status : RtStatus := .ok
  lateCycles : Nat := 0
  consecutiveLate : Int := 0
  lastPeriod : Double := 0
  deriving DecidableEq

namespace RtMonitor

def reset (monitor : RtMonitor) : RtMonitor :=
  { maxPeriod := monitor.maxPeriod, maxLateCycles := monitor.maxLateCycles }

def configure (_ : RtMonitor) (period maxPeriodFactor : Double) (maxLateCycles : Int) :
    RtMonitor :=
  { maxPeriod := rounded (period * maxPeriodFactor), maxLateCycles := maxLateCycles }

def cycleStarted (monitor : RtMonitor) (steady : Time) : RtMonitor :=
  let monitor :=
    match monitor.lastStart with
    | none => monitor
    | some start =>
        let lastPeriod := machineSeconds (steady - start)
        if monitor.maxPeriod < lastPeriod then
          { monitor with
            lastPeriod := lastPeriod
            lateCycles := monitor.lateCycles + 1
            consecutiveLate := toInt32 (monitor.consecutiveLate + 1) }
        else { monitor with lastPeriod := lastPeriod, consecutiveLate := 0 }
  { monitor with
    lastStart := some steady
    status :=
      if monitor.maxLateCycles ≤ monitor.consecutiveLate then .error
      else if 0 < monitor.consecutiveLate then .late
      else .ok }

end RtMonitor

structure Heartbeat where
  header : Header := {}
  sequence : Nat := 0
  rtStatus : RtStatus := .ok
  lateCycles : Nat := 0
  safetyMode : Bool := false
  configurationHash : String := ""
  deriving DecidableEq

/-- The parameters of the system node that the supervisor reads, with their
defaults. -/
structure SafetyParameters where
  mode : Bool := false
  lockMemory : Bool := false
  plcMaxLinearVel : Double := 0
  plcMaxAngularVel : Double := 0
  heartbeatPeriod : Double := 0
  maxPeriodFactor : Double := .fin 2
  maxLateCycles : Int := 10
  statusTimeout : Double := 0
  maxPoseAge : Double := .fin 1
  rtFreq : Double := .fin 200
  useRealTime : Bool := true
  deriving DecidableEq

/-- What the operating system answers: why real-time scheduling or locking the
memory is not allowed, or the empty string. -/
structure SystemChecks where
  realTimePriority : String := ""
  memoryLock : String := ""

structure SafetySupervisor where
  safetyMode : Bool := false
  lockMemory : Bool := false
  maxLinearVel : Double := 0
  maxAngularVel : Double := 0
  heartbeatPeriod : Double := 0
  maxPeriodFactor : Double := .fin 2
  safetyStatusTimeout : Double := 0
  maxPoseAge : Double := .fin 1
  hardwareId : String := "system_node"
  rtMonitor : RtMonitor := {}
  heartbeat : Heartbeat := {}
  heartbeatPub : Bool := false
  heartbeats : List Heartbeat := []
  lastHeartbeat : Option Time := none
  safetyStatusSub : Bool := false
  safetyChannel : SafetyChannelMonitor := {}
  lastRtReport : Option RtStatus := none
  lastSafetyReport : Option Evaluation := none
  lastPoseStale : Option Bool := none
  failure : String := ""
  deriving DecidableEq

namespace SafetySupervisor

/-- A value that must not be negative, nor zero where safety mode requires it. -/
def checkRequired (safetyMode : Bool) (name : String) (value : Double) : List String :=
  if !value.isFinite || decide (value < 0) || safetyMode && beqIeee value 0 then
    [name ++ " = " ++ stdToString value ++
      (if safetyMode then " (> 0, required in safety.mode)" else " (>= 0)")]
  else []

def systemErrors (params : SafetyParameters) (checks : SystemChecks) : List String :=
  checkRequired params.mode "safety.plc_limits.max_linear_vel" params.plcMaxLinearVel ++
  checkRequired params.mode "safety.plc_limits.max_angular_vel" params.plcMaxAngularVel ++
  checkRequired params.mode "safety.heartbeat.period" params.heartbeatPeriod ++
  checkRequired params.mode "safety.status.timeout" params.statusTimeout ++
  (if !params.maxPoseAge.isFinite || decide (params.maxPoseAge < 0) then
    ["safety.max_pose_age = " ++ stdToString params.maxPoseAge ++ " (>= 0)"] else []) ++
  (if !params.maxPeriodFactor.isFinite || decide (params.maxPeriodFactor ≤ .fin 1) then
    ["safety.rt_monitor.max_period_factor = " ++ stdToString params.maxPeriodFactor ++
      " (> 1)"] else []) ++
  (if params.maxLateCycles < 1 then
    ["safety.rt_monitor.max_late_cycles = " ++ toString params.maxLateCycles ++ " (>= 1)"]
    else []) ++
  (if params.mode then
    if !params.useRealTime then ["use_real_time = false (required in safety.mode)"]
    else if checks.realTimePriority ≠ "" then
      ["safety.mode requires real-time scheduling: " ++ checks.realTimePriority]
    else []
    else []) ++
  (if params.lockMemory ∧ checks.memoryLock ≠ "" then
    ["safety.lock_memory: " ++ checks.memoryLock] else [])

/-- Reads the safety parameters and checks them, before the subnodes configure. -/
def checkSystem (supervisor : SafetySupervisor) (nodeName : String)
    (params : SafetyParameters) (checks : SystemChecks) : SafetySupervisor × Bool :=
  let supervisor := { supervisor with
    safetyMode := params.mode
    lockMemory := params.lockMemory
    maxLinearVel := params.plcMaxLinearVel
    maxAngularVel := params.plcMaxAngularVel
    heartbeatPeriod := params.heartbeatPeriod
    maxPeriodFactor := params.maxPeriodFactor
    safetyStatusTimeout := params.statusTimeout
    maxPoseAge := params.maxPoseAge
    hardwareId := nodeName
    rtMonitor :=
      if params.rtFreq.isFinite && decide (0 < params.rtFreq) then
        supervisor.rtMonitor.configure (rounded (.fin 1 / params.rtFreq)) params.maxPeriodFactor
          (toInt32 params.maxLateCycles)
      else supervisor.rtMonitor
    heartbeatPub := params.heartbeatPeriod.isFinite && decide (0 < params.heartbeatPeriod)
    heartbeat := { supervisor.heartbeat with safetyMode := params.mode }
    safetyStatusSub := params.statusTimeout.isFinite && decide (0 < params.statusTimeout)
    safetyChannel :=
      if params.statusTimeout.isFinite && decide (0 < params.statusTimeout) then
        supervisor.safetyChannel.configure params.statusTimeout
      else supervisor.safetyChannel }
  (supervisor, (systemErrors params checks).isEmpty)

/-- One robot limit against the limit configured in the safety channel. -/
def checkLimit (name : String) (value limit : Double) (safety : String) : List String :=
  if 0 < limit ∧ limit < Extended.abs value then
    ["controller_node.robot_limits." ++ name ++ " = " ++ stdToString value ++
      " exceeds system_node." ++ safety ++ " = " ++ stdToString limit]
  else []

/-- Every error of the controller node against the safety channel and what safety
mode requires. -/
def controllerErrors (supervisor : SafetySupervisor) (params : ControllerParameters)
    (limits : RobotLimits) : List String :=
  (if supervisor.safetyMode ∧ params.cmdTimeout ≤ 0 then
    ["controller_node.cmd_timeout must be > 0 in safety.mode"] else []) ++
  (if supervisor.safetyMode ∧ params.keepalivePeriod ≤ 0 then
    ["controller_node.cmd_vel_keepalive_period must be > 0 in safety.mode"] else []) ++
  checkLimit "max_linear_vel" limits.maxLinearVel supervisor.maxLinearVel
    "safety.plc_limits.max_linear_vel" ++
  checkLimit "min_linear_vel" limits.minLinearVel supervisor.maxLinearVel
    "safety.plc_limits.max_linear_vel" ++
  checkLimit "max_lateral_vel" limits.maxLateralVel supervisor.maxLinearVel
    "safety.plc_limits.max_linear_vel" ++
  checkLimit "max_vertical_vel" limits.maxVerticalVel supervisor.maxLinearVel
    "safety.plc_limits.max_linear_vel" ++
  checkLimit "max_angular_vel" limits.maxAngularVel supervisor.maxAngularVel
    "safety.plc_limits.max_angular_vel"

def checkController (supervisor : SafetySupervisor) (params : ControllerParameters)
    (node : ControllerNode) : Bool :=
  (supervisor.controllerErrors params node.getRobotLimits).isEmpty

/-- After a successful configure: without a safety status there is no restriction;
with it, a stop until the first one arrives. -/
def onConfigured (supervisor : SafetySupervisor) (nav : NavState) (hash : String)
    (steady : Time) : SafetySupervisor × NavState :=
  let state :=
    if supervisor.safetyStatusSub then (supervisor.safetyChannel.evaluate steady).state else {}
  ({ supervisor with heartbeat := { supervisor.heartbeat with configurationHash := hash } },
    { nav with configurationHash := some hash, safetyStatus := some state })

def onActivate (supervisor : SafetySupervisor) : SafetySupervisor :=
  { supervisor with
    rtMonitor := supervisor.rtMonitor.reset
    lastHeartbeat := none
    lastSafetyReport := none
    lastPoseStale := none
    failure := "" }

def receiveStatus (supervisor : SafetySupervisor) (msg : SafetyStatus) (steady : Time) :
    SafetySupervisor :=
  if supervisor.safetyStatusSub then
    { supervisor with safetyChannel := supervisor.safetyChannel.received msg steady }
  else supervisor

def rtDiagnostic (supervisor : SafetySupervisor) (status : RtStatus) : DiagnosticStatus :=
  let base : DiagnosticStatus := { name := "rt_cycle", hardwareId := supervisor.hardwareId }
  match status with
  | .ok => { base with level := .ok, message := "Real-time cycles on time" }
  | .late =>
      { base with
        level := .warn
        message := "A real-time cycle started late: " ++
          ostreamDouble (rounded (supervisor.rtMonitor.lastPeriod * .fin 1000)) ++
          " ms after the previous one" }
  | .error =>
      { base with
        -- Only a WARN outside safety mode.
        level := if supervisor.safetyMode then .error else .warn
        message := toString supervisor.rtMonitor.consecutiveLate ++
          " real-time cycles in a row started late (more than " ++
          ostreamDouble supervisor.maxPeriodFactor ++ " periods after the previous one)" }

/-- Nothing to report until something goes wrong; then, only changes. -/
def reportRtStatus (supervisor : SafetySupervisor) (nav : NavState) (status : RtStatus) :
    SafetySupervisor × NavState :=
  if supervisor.lastRtReport = some status ∨ supervisor.lastRtReport = none ∧ status = .ok then
    (supervisor, nav)
  else
    ({ supervisor with lastRtReport := some status },
      nav.setDiagnostic "rt_cycle" (supervisor.rtDiagnostic status))

def publishHeartbeat (supervisor : SafetySupervisor) (status : RtStatus) (steady now : Time) :
    SafetySupervisor :=
  let due :=
    match supervisor.lastHeartbeat with
    | none => true
    | some last => decide (supervisor.heartbeatPeriod ≤ seconds (steady - last))
  if supervisor.heartbeatPub && due then
    let heartbeat := { supervisor.heartbeat with
      header := { supervisor.heartbeat.header with stamp := now }
      sequence := supervisor.heartbeat.sequence + 1
      rtStatus := status
      lateCycles := supervisor.rtMonitor.lateCycles }
    { supervisor with
      lastHeartbeat := some steady
      heartbeat := heartbeat
      heartbeats := heartbeat :: supervisor.heartbeats }
  else supervisor

def safetyDiagnostic (supervisor : SafetySupervisor) (evaluation : Evaluation) :
    DiagnosticStatus :=
  let last := supervisor.safetyChannel.last
  let speed :=
    if evaluation.state.maxLinearVel.isFinite then
      ", speed limited to " ++ ostreamDouble evaluation.state.maxLinearVel ++ " m/s, " ++
        ostreamDouble evaluation.state.maxAngularVel ++ " rad/s"
    else ""
  let (level, message) : DiagnosticLevel × String :=
    match evaluation.condition with
    | .noStatus =>
        (.error, "No safety status received on easynav_safety_status: robot stopped")
    | .stale =>
        (.error, "No safety status for more than " ++
          ostreamDouble supervisor.safetyStatusTimeout ++ " s: robot stopped")
    | .invalid =>
        (.error, "Invalid safety status (" ++
          SafetyChannelMonitor.invalidReason (last.getD {}) ++ "): robot stopped")
    | .valid =>
        if evaluation.state.protectiveStop then
          (.warn, "Protective stop by the safety channel" ++ speed)
        else (.ok, "Safety channel: no stop" ++ speed)
  { name := "safety_status"
    hardwareId := supervisor.hardwareId
    level := level
    message := message
    values :=
      match last with
      | some last =>
          [("active_field", last.activeField),
            ("muting", if last.muting then "true" else "false")]
      | none => [] }

def reportSafetyStatus (supervisor : SafetySupervisor) (nav : NavState)
    (evaluation : Evaluation) : SafetySupervisor × NavState :=
  if (supervisor.lastSafetyReport.any fun last => last.eq evaluation) then (supervisor, nav)
  else
    ({ supervisor with lastSafetyReport := some evaluation },
      nav.setDiagnostic "safety_status" (supervisor.safetyDiagnostic evaluation))

def poseDiagnostic (supervisor : SafetySupervisor) (age : Double) (finite stale : Bool) :
    DiagnosticStatus :=
  { name := "robot_pose"
    hardwareId := supervisor.hardwareId
    level := if stale then .error else .ok
    message :=
      if stale then
        (if finite then
          "robot_pose is " ++ ostreamDouble age ++ " s old (safety.max_pose_age: " ++
            ostreamDouble supervisor.maxPoseAge ++ " s)"
        else "robot_pose is not finite") ++
          (if supervisor.safetyMode then ": motion inhibited" else "")
      else "robot_pose up to date" }

/-- No `rclcpp::Time` can be made of a negative stamp: `check_pose_age` throws. -/
def poseAgeThrows (supervisor : SafetySupervisor) (nav : NavState) : Bool :=
  decide (0 < supervisor.maxPoseAge) &&
    nav.robotPose.any fun pose => decide (pose.header.stamp < 0)

/-- Checks the age of `robot_pose`; reports and, in safety mode, inhibits motion. Of a
negative stamp, this is what there would be to do if nothing were thrown. -/
def checkPoseAge (supervisor : SafetySupervisor) (nav : NavState) (now : Time) :
    SafetySupervisor × NavState :=
  match nav.robotPose with
  | none => (supervisor, nav)
  | some pose =>
      -- Off, or not localized yet.
      if ¬ 0 < supervisor.maxPoseAge ∨ pose.header.stamp = 0 then (supervisor, nav)
      else
        let age := seconds (now - pose.header.stamp)
        let finite := pose.pose.isFinite
        let stale := decide (supervisor.maxPoseAge < age) || !finite
        let nav := if supervisor.safetyMode then { nav with inhibitMotion := some stale } else nav
        if supervisor.lastPoseStale = some stale ∨
            supervisor.lastPoseStale = none ∧ stale = false then
          (supervisor, nav)
        else
          ({ supervisor with lastPoseStale := some stale },
            nav.setDiagnostic "robot_pose" (supervisor.poseDiagnostic age finite stale))

/-- The safety channel's state goes to the blackboard. -/
def applySafetyStatus (supervisor : SafetySupervisor) (nav : NavState) (steady : Time) :
    SafetySupervisor × NavState :=
  if supervisor.safetyStatusSub then
    let evaluation := supervisor.safetyChannel.evaluate steady
    supervisor.reportSafetyStatus { nav with safetyStatus := some evaluation.state } evaluation
  else (supervisor, nav)

/-- Once it asks to stop, it keeps asking until activated again. -/
def latchFailure (supervisor : SafetySupervisor) (status : RtStatus) : SafetySupervisor :=
  if supervisor.safetyMode && decide (status = .error) && decide (supervisor.failure = "") then
    { supervisor with
      failure := "[safety.mode] " ++ toString supervisor.rtMonitor.consecutiveLate ++
        " real-time cycles in a row started late" }
  else supervisor

/-- What `cycle_rt` does before it looks at the age of the pose. -/
def beforePoseAge (supervisor : SafetySupervisor) (nav : NavState) (steady now : Time) :
    SafetySupervisor × NavState :=
  let monitor := supervisor.rtMonitor.cycleStarted steady
  let status := monitor.status
  let (supervisor, nav) := { supervisor with rtMonitor := monitor }.reportRtStatus nav status
  let supervisor := supervisor.publishHeartbeat status steady now
  supervisor.applySafetyStatus nav steady

/-- At the start of each RT cycle. `false` if EasyNav must stop. -/
def cycleRt (supervisor : SafetySupervisor) (nav : NavState) (steady now : Time) :
    Bool × SafetySupervisor × NavState :=
  let status := (supervisor.rtMonitor.cycleStarted steady).status
  let (supervisor, nav) := supervisor.beforePoseAge nav steady now
  let (supervisor, nav) := supervisor.checkPoseAge nav now
  let supervisor := supervisor.latchFailure status
  (decide (supervisor.failure = ""), supervisor, nav)

section Cycle

variable (supervisor : SafetySupervisor) (nav : NavState)

/-- What the safety status rests on is the same in both. -/
structure SameChannel (a b : SafetySupervisor) : Prop where
  safetyStatusSub : a.safetyStatusSub = b.safetyStatusSub
  safetyChannel : a.safetyChannel = b.safetyChannel

theorem SameChannel.trans {a b c : SafetySupervisor} (hab : SameChannel a b)
    (hbc : SameChannel b c) : SameChannel a c :=
  ⟨hab.safetyStatusSub.trans hbc.safetyStatusSub, hab.safetyChannel.trans hbc.safetyChannel⟩

theorem reportRtStatus_sameChannel (status : RtStatus) :
    SameChannel (supervisor.reportRtStatus nav status).1 supervisor := by
  unfold reportRtStatus
  split <;> exact ⟨rfl, rfl⟩

theorem publishHeartbeat_sameChannel (status : RtStatus) (steady now : Time) :
    SameChannel (supervisor.publishHeartbeat status steady now) supervisor := by
  unfold publishHeartbeat
  split <;> (dsimp only; split <;> exact ⟨rfl, rfl⟩)

theorem reportSafetyStatus_eq (evaluation : Evaluation) :
    SameChannel (supervisor.reportSafetyStatus nav evaluation).1 supervisor ∧
      (supervisor.reportSafetyStatus nav evaluation).2.safetyStatus = nav.safetyStatus := by
  unfold reportSafetyStatus
  split
  · exact ⟨⟨rfl, rfl⟩, rfl⟩
  · exact ⟨⟨rfl, rfl⟩, rfl⟩

theorem checkPoseAge_eq (now : Time) :
    SameChannel (supervisor.checkPoseAge nav now).1 supervisor ∧
      (supervisor.checkPoseAge nav now).2.safetyStatus = nav.safetyStatus := by
  unfold checkPoseAge
  split
  · exact ⟨⟨rfl, rfl⟩, rfl⟩
  · split
    · exact ⟨⟨rfl, rfl⟩, rfl⟩
    · dsimp only
      split <;> split <;> exact ⟨⟨rfl, rfl⟩, rfl⟩

theorem latchFailure_sameChannel (status : RtStatus) :
    SameChannel (supervisor.latchFailure status) supervisor := by
  unfold latchFailure
  split <;> exact ⟨rfl, rfl⟩

theorem cycleRt_safetyStatus (steady now : Time) (h : supervisor.safetyStatusSub = true) :
    SameChannel (supervisor.cycleRt nav steady now).2.1 supervisor ∧
      (supervisor.cycleRt nav steady now).2.2.safetyStatus =
        some (supervisor.safetyChannel.evaluate steady).state := by
  unfold cycleRt beforePoseAge
  dsimp only
  set monitored := { supervisor with rtMonitor := supervisor.rtMonitor.cycleStarted steady }
  set status := (supervisor.rtMonitor.cycleStarted steady).status
  set reported := monitored.reportRtStatus nav status
  set beating := reported.1.publishHeartbeat status steady now
  have hbeating : SameChannel beating supervisor :=
    (publishHeartbeat_sameChannel _ _ _ _).trans
      ((reportRtStatus_sameChannel _ _ _).trans ⟨rfl, rfl⟩)
  have happlied : SameChannel (beating.applySafetyStatus reported.2 steady).1 supervisor ∧
      (beating.applySafetyStatus reported.2 steady).2.safetyStatus =
        some (supervisor.safetyChannel.evaluate steady).state := by
    unfold applySafetyStatus
    rw [if_pos (hbeating.safetyStatusSub.trans h)]
    obtain ⟨hsame, hnav⟩ := beating.reportSafetyStatus_eq
      { reported.2 with safetyStatus := some (beating.safetyChannel.evaluate steady).state }
      (beating.safetyChannel.evaluate steady)
    exact ⟨hsame.trans hbeating, hnav.trans (by rw [hbeating.safetyChannel])⟩
  set applied := beating.applySafetyStatus reported.2 steady
  obtain ⟨hposed, hnav⟩ := applied.1.checkPoseAge_eq applied.2 now
  exact ⟨(latchFailure_sameChannel _ _).trans (hposed.trans happlied.1),
    hnav.trans happlied.2⟩

theorem checkPoseAge_sameCommands (now : Time) :
    SameCommands (supervisor.checkPoseAge nav now).2 nav := by
  rw [checkPoseAge]
  split
  · exact .refl nav
  · split
    · exact .refl nav
    · dsimp only
      split
      · split <;> exact ⟨rfl, rfl⟩
      · split <;> exact ⟨rfl, rfl⟩

theorem cycleRt_sameCommands (steady now : Time) :
    SameCommands (supervisor.cycleRt nav steady now).2.2 nav := by
  have hreport : ∀ (supervisor : SafetySupervisor) (nav : NavState) (status : RtStatus),
      SameCommands (supervisor.reportRtStatus nav status).2 nav := by
    intro supervisor nav status
    rw [reportRtStatus]
    split
    · exact .refl nav
    · exact ⟨rfl, rfl⟩
  have happly : ∀ (supervisor : SafetySupervisor) (nav : NavState),
      SameCommands (supervisor.applySafetyStatus nav steady).2 nav := by
    intro supervisor nav
    simp only [applySafetyStatus, reportSafetyStatus]
    split
    · split <;> exact ⟨rfl, rfl⟩
    · exact .refl nav
  rw [cycleRt]
  dsimp only
  refine (checkPoseAge_sameCommands _ _ now).trans ((happly _ _).trans ?_)
  exact hreport _ _ _

structure SameButReports (a b : SafetySupervisor) : Prop where
  safetyMode : a.safetyMode = b.safetyMode
  maxPoseAge : a.maxPoseAge = b.maxPoseAge
  rtMonitor : a.rtMonitor = b.rtMonitor
  failure : a.failure = b.failure

theorem SameButReports.trans {a b c : SafetySupervisor} (hab : SameButReports a b)
    (hbc : SameButReports b c) : SameButReports a c :=
  ⟨hab.safetyMode.trans hbc.safetyMode, hab.maxPoseAge.trans hbc.maxPoseAge,
    hab.rtMonitor.trans hbc.rtMonitor, hab.failure.trans hbc.failure⟩

theorem reportRtStatus_sameButReports (status : RtStatus) :
    SameButReports (supervisor.reportRtStatus nav status).1 supervisor ∧
      (supervisor.reportRtStatus nav status).2.robotPose = nav.robotPose := by
  rw [reportRtStatus]
  split <;> exact ⟨⟨rfl, rfl, rfl, rfl⟩, rfl⟩

theorem publishHeartbeat_sameButReports (status : RtStatus) (steady now : Time) :
    SameButReports (supervisor.publishHeartbeat status steady now) supervisor := by
  simp only [publishHeartbeat]
  split
  · split <;> exact ⟨rfl, rfl, rfl, rfl⟩
  · split <;> exact ⟨rfl, rfl, rfl, rfl⟩

theorem applySafetyStatus_sameButReports (steady : Time) :
    SameButReports (supervisor.applySafetyStatus nav steady).1 supervisor ∧
      (supervisor.applySafetyStatus nav steady).2.robotPose = nav.robotPose := by
  simp only [applySafetyStatus, reportSafetyStatus]
  split
  · split <;> exact ⟨⟨rfl, rfl, rfl, rfl⟩, rfl⟩
  · exact ⟨⟨rfl, rfl, rfl, rfl⟩, rfl⟩

theorem checkPoseAge_sameButReports (now : Time) :
    SameButReports (supervisor.checkPoseAge nav now).1 supervisor := by
  rw [checkPoseAge]
  split
  · exact ⟨rfl, rfl, rfl, rfl⟩
  · split
    · exact ⟨rfl, rfl, rfl, rfl⟩
    · dsimp only
      split <;> exact ⟨rfl, rfl, rfl, rfl⟩

theorem receiveStatus_sameButReports (msg : SafetyStatus) (steady : Time) :
    SameButReports (supervisor.receiveStatus msg steady) supervisor := by
  rw [receiveStatus]
  split <;> exact ⟨rfl, rfl, rfl, rfl⟩

theorem latchFailure_failure (status : RtStatus) :
    (supervisor.latchFailure status).failure ≠ "" ↔
      supervisor.failure ≠ "" ∨ supervisor.safetyMode = true ∧ status = .error := by
  rw [latchFailure]
  split
  · rename_i hlatch
    simp only [Bool.and_eq_true, decide_eq_true_eq] at hlatch
    exact iff_of_true (by simp) (Or.inr hlatch.1)
  · rename_i hlatch
    simp only [Bool.and_eq_true, decide_eq_true_eq, not_and] at hlatch
    constructor
    · exact Or.inl
    · rintro (hfailure | herror)
      · exact hfailure
      · exact hlatch herror

theorem latchFailure_same (status : RtStatus) :
    (supervisor.latchFailure status).safetyMode = supervisor.safetyMode ∧
      (supervisor.latchFailure status).maxPoseAge = supervisor.maxPoseAge ∧
      (supervisor.latchFailure status).rtMonitor = supervisor.rtMonitor := by
  rw [latchFailure]
  split <;> exact ⟨rfl, rfl, rfl⟩

theorem beforePoseAge_sameButReports (steady now : Time) :
    SameButReports (supervisor.beforePoseAge nav steady now).1
        { supervisor with rtMonitor := supervisor.rtMonitor.cycleStarted steady } ∧
      (supervisor.beforePoseAge nav steady now).2.robotPose = nav.robotPose := by
  set status := (supervisor.rtMonitor.cycleStarted steady).status
  set monitored := { supervisor with rtMonitor := supervisor.rtMonitor.cycleStarted steady }
  obtain ⟨hreport, hreport'⟩ := monitored.reportRtStatus_sameButReports nav status
  have hheartbeat := (monitored.reportRtStatus nav status).1.publishHeartbeat_sameButReports
    status steady now
  obtain ⟨happly, happly'⟩ := ((monitored.reportRtStatus nav status).1.publishHeartbeat status
    steady now).applySafetyStatus_sameButReports (monitored.reportRtStatus nav status).2 steady
  exact ⟨happly.trans (hheartbeat.trans hreport), happly'.trans hreport'⟩

/-- What is thrown depends on the parameters and on the pose before the cycle. -/
theorem poseAgeThrows_beforePoseAge (steady now : Time) :
    (supervisor.beforePoseAge nav steady now).1.poseAgeThrows
      (supervisor.beforePoseAge nav steady now).2 = supervisor.poseAgeThrows nav := by
  obtain ⟨hsame, hpose⟩ := supervisor.beforePoseAge_sameButReports nav steady now
  rw [poseAgeThrows, hsame.maxPoseAge, hpose]
  rfl

theorem cycleRt_eq (steady now : Time) :
    ∃ reported nav', SameButReports reported
        { supervisor with rtMonitor := supervisor.rtMonitor.cycleStarted steady } ∧
      nav'.robotPose = nav.robotPose ∧
      supervisor.cycleRt nav steady now =
        let (checked, nav) := reported.checkPoseAge nav' now
        let latched := checked.latchFailure (supervisor.rtMonitor.cycleStarted steady).status
        (decide (latched.failure = ""), latched, nav) := by
  obtain ⟨hsame, hpose⟩ := supervisor.beforePoseAge_sameButReports nav steady now
  exact ⟨_, _, hsame, hpose, rfl⟩

theorem cycleRt_decides (steady now : Time) :
    (supervisor.cycleRt nav steady now).2.1.safetyMode = supervisor.safetyMode ∧
      (supervisor.cycleRt nav steady now).2.1.maxPoseAge = supervisor.maxPoseAge ∧
      (supervisor.cycleRt nav steady now).2.1.rtMonitor =
        supervisor.rtMonitor.cycleStarted steady ∧
      ((supervisor.cycleRt nav steady now).2.1.failure ≠ "" ↔
        supervisor.failure ≠ "" ∨ supervisor.safetyMode = true ∧
          (supervisor.rtMonitor.cycleStarted steady).status = .error) ∧
      ((supervisor.cycleRt nav steady now).1 = false ↔
        (supervisor.cycleRt nav steady now).2.1.failure ≠ "") := by
  obtain ⟨reported, nav', hreported, -, heq⟩ := supervisor.cycleRt_eq nav steady now
  have hchecked := (reported.checkPoseAge_sameButReports nav' now).trans hreported
  set checked := (reported.checkPoseAge nav' now).1
  obtain ⟨hmode, hage, hmonitor⟩ := checked.latchFailure_same
    (supervisor.rtMonitor.cycleStarted steady).status
  rw [heq]
  refine ⟨hmode.trans hchecked.safetyMode, hage.trans hchecked.maxPoseAge,
    hmonitor.trans hchecked.rtMonitor, ?_, by simp⟩
  have hlatch := checked.latchFailure_failure (supervisor.rtMonitor.cycleStarted steady).status
  rw [hchecked.failure, hchecked.safetyMode] at hlatch
  exact hlatch

end Cycle

end SafetySupervisor

end EasyNav.SafetySupervision
