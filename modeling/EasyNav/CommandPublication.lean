import EasyNav.CommandSupervision
import EasyNav.Lifecycle
import EasyNav.VelocityRamp

/-!
The controller node: the robot limits it owns, and the single point where the
velocity command leaves EasyNav. What it publishes is kept in the state, newest
command first.
-/

namespace EasyNav.CommandPublication

open EasyNav.ExtendedArithmetic
open EasyNav.ExtendedArithmetic.Extended
open EasyNav.DoubleArithmetic
open EasyNav.SpeedLimits
open EasyNav.NavigationState
open EasyNav.VelocityRamp
open EasyNav.VelocitySelection
open EasyNav.CommandSupervision
open EasyNav.Lifecycle

/-- Longest time a smoother step may cover. -/
def kMaxSmootherStep : Double := .fin (1 / 10)

def kStopPeriod : Double := .fin (2 / 100)

/-- Extra time allowed for the braking ramp over the theoretical one. -/
def kStopMargin : Double := .fin (2 / 10)

/-- Whether every component of the twist is exactly zero. -/
def isZero (t : Twist) : Bool :=
  beqIeee t.linear.x 0 && beqIeee t.linear.y 0 && beqIeee t.linear.z 0 &&
    beqIeee t.angular.x 0 && beqIeee t.angular.y 0 && beqIeee t.angular.z 0

theorem isZero_iff {t : Twist} : isZero t = true ↔ t = {} := by
  constructor
  · intro h
    apply Twist.eq_of_eq
    simpa [isZero, Twist.eq, Vector3.eq, and_assoc] using h
  · rintro rfl
    decide +kernel

def limitFields : List (String × (RobotLimits → Double)) :=
  [("max_linear_vel", RobotLimits.maxLinearVel),
    ("min_linear_vel", RobotLimits.minLinearVel),
    ("max_angular_vel", RobotLimits.maxAngularVel),
    ("max_linear_acc", RobotLimits.maxLinearAcc),
    ("max_linear_decel", RobotLimits.maxLinearDecel),
    ("max_angular_acc", RobotLimits.maxAngularAcc),
    ("max_angular_decel", RobotLimits.maxAngularDecel),
    ("max_lateral_vel", RobotLimits.maxLateralVel),
    ("max_lateral_acc", RobotLimits.maxLateralAcc),
    ("max_lateral_decel", RobotLimits.maxLateralDecel),
    ("max_vertical_vel", RobotLimits.maxVerticalVel),
    ("max_vertical_acc", RobotLimits.maxVerticalAcc),
    ("max_vertical_decel", RobotLimits.maxVerticalDecel),
    ("min_turning_radius", RobotLimits.minTurningRadius)]

/-- The parameters the node reads, and the fields of `robot_limits` that are
given among the parameter overrides. -/
structure ControllerParameters where
  robotLimits : RobotLimits := {}
  overrides : List String := []
  useCmdVelStamped : Bool := false
  cmdTimeout : Double := .fin (1 / 2)
  keepalivePeriod : Double := .fin 0
  deriving DecidableEq

/-- The loaded controller plugin: its alias, and its `<alias>.rt_freq`, if that is
declared. -/
structure LoadedController where
  name : String
  rtFreq : Option Double := none
  deriving DecidableEq

structure ControllerNode where
  robotLimits : RobotLimits := {}
  safetyChannel : SafetyChannelState := {}
  configuredLimits : List String := []
  useCmdVelStamped : Bool := false
  velPubStamped : Bool := false
  velPub : Bool := false
  mux : VelocityMux := {}
  smoother : VelocitySmoother := {}
  guard : CommandGuard := {}
  lastSmootherStep : Option Time := none
  lastPublishedZero : Bool := false
  controller : Option LoadedController := none
  published : List TwistStamped := []
  deriving DecidableEq

/-- What one cycle of the controller plugin did: whether it ran, and the
blackboard it left. -/
structure ControllerRun where
  ran : Bool
  nav : NavState

structure StopReadings where
  start : Time
  loop : List (Time × Time)
  last : Time
  robotFrame : String := "base_footprint"

/-- What loading the controller plugin does: the deprecated limits of each call of
`get_robot_limits` it makes while initializing, and the plugin, unless it fails. -/
structure PluginLoading where
  queries : List (String → Option Double) := []
  loads : Bool := true
  controller : Option LoadedController := none

namespace ControllerNode

def getRobotLimits (node : ControllerNode) : RobotLimits :=
  limitedBy node.robotLimits node.safetyChannel

def isRobotLimitConfigured (node : ControllerNode) (field : String) : Bool :=
  node.configuredLimits.contains field

def setRobotLimits (node : ControllerNode) (limits : RobotLimits) : ControllerNode :=
  let node := { node with robotLimits := limits }
  { node with smoother := node.smoother.setLimits node.getRobotLimits }

def applySafetyChannel (node : ControllerNode) (state : SafetyChannelState) :
    ControllerNode :=
  let node := { node with safetyChannel := state }
  { node with smoother := node.smoother.setLimits node.getRobotLimits }

def readParameters (node : ControllerNode) (params : ControllerParameters) :
    ControllerNode :=
  let configured := (limitFields.filter fun field =>
    params.overrides.contains field.1 ||
      !beqIeee (field.2 params.robotLimits) (field.2 {})).map Prod.fst
  let limits := defaultLateralLimits params.robotLimits configured.contains
  { node with
    useCmdVelStamped := params.useCmdVelStamped
    configuredLimits := configured }.setRobotLimits limits

def publish (node : ControllerNode) (cmd : TwistStamped) : ControllerNode :=
  { node with
    published :=
      if node.useCmdVelStamped && node.velPubStamped ||
          !node.useCmdVelStamped && node.velPub
      then cmd :: node.published
      else node.published
    guard := node.guard.published cmd.header.stamp
    lastPublishedZero := isZero cmd.twist }

/-- The selection of this cycle, supervised and reported. -/
def superviseCommand (node : ControllerNode) (nav : NavState) (now : Time) :
    Selection × ControllerNode × NavState :=
  let (discarded, nav) := CommandGuard.discardNonFinite nav
  let (selection, mux, nav) := node.mux.select nav
  let (selection, guard) := node.guard.supervise selection now
  let (guard, nav) := guard.report nav discarded selection.fresh
  (selection, { node with mux := mux, guard := guard }, nav)

def smootherStep (node : ControllerNode) (now : Time) : Double :=
  match node.lastSmootherStep with
  | some last => Extended.clamp (seconds (now - last)) 0 kMaxSmootherStep
  | none => 0

/-- The node once the time of the step is taken. The safety channel stops the
robot: no ramp from what was commanded. -/
def beforeStep (node : ControllerNode) (selection : Selection) (now : Time) :
    ControllerNode :=
  { node with
    lastSmootherStep := some now
    smoother :=
      if selection.choice = .safetyStop then node.smoother.reset {} else node.smoother }

/-- Nothing new, and the robot is already at the last target. -/
def nothingToPublish (node : ControllerNode) (selection : Selection) (now : Time) : Bool :=
  let ramping := !node.smoother.reached selection.cmd.twist
  let atRest := node.lastPublishedZero && isZero selection.cmd.twist
  (!selection.fresh || atRest) && !ramping && !node.guard.keepaliveDue now

/-- Publishes the next command of the smoother towards the selected one. -/
def publishSmoothed (node : ControllerNode) (selection : Selection) (now : Time)
    (dt : Double) : ControllerNode :=
  let smoother := node.smoother.step selection.cmd.twist dt
  { node with smoother := smoother }.publish
    { header := { selection.cmd.header with stamp := now }, twist := smoother.current }

/-- Publishes an emergency override as it is; the smoother continues from it. -/
def publishOverride (node : ControllerNode) (selection : Selection) (now : Time) :
    ControllerNode :=
  { node with smoother := node.smoother.reset selection.cmd.twist }.publish
    { header := { selection.cmd.header with stamp := now }, twist := selection.cmd.twist }

def publishSelection (node : ControllerNode) (selection : Selection) (now : Time) :
    ControllerNode :=
  let dt := node.smootherStep now
  let node := node.beforeStep selection now
  if selection.smooth then
    if node.nothingToPublish selection now then node
    else node.publishSmoothed selection now dt
  else node.publishOverride selection now

/-- The safety channel's state is applied when it changes. -/
def followSafetyStatus (node : ControllerNode) (nav : NavState) : ControllerNode :=
  match nav.safetyStatus with
  | some state =>
      if state.eq node.safetyChannel then node else node.applySafetyChannel state
  | none => node

def publishCmdVelRt (node : ControllerNode) (nav : NavState) (now : Time) :
    ControllerNode × NavState :=
  let (selection, node, nav) := (node.followSafetyStatus nav).superviseCommand nav now
  (node.publishSelection selection now, nav)

/-- Proposes the command of the plugin if it is a new one. -/
def cycleRt (node : ControllerNode) (nav : NavState) (plugin : NavState → ControllerRun) :
    Bool × ControllerNode × NavState :=
  match node.controller with
  | none => (false, node, nav)
  | some _ =>
      let run := plugin nav
      match run.ran, run.nav.cmdVel with
      | true, some cmd =>
          let (isNew, guard) := node.guard.isNew cmd
          (true, { node with guard := guard },
            if isNew then propose run.nav .controller cmd else run.nav)
      | ran, _ => (ran, node, run.nav)

/-- The braking loop of `stopRobot`. Each reading is one check of the loop: the
monotonic clock, and the node's clock for the stamp; the loop ends with them. -/
def brake (node : ControllerNode) (robotFrame : String) (deadline : Double) :
    List (Time × Time) → ControllerNode
  | [] => node
  | (steady, now) :: readings =>
      if node.smoother.reached {} || !decide (seconds steady < deadline) then node
      else
        let smoother := node.smoother.step {} kStopPeriod
        let node := { node with smoother := smoother }.publish
          { header := { stamp := now, frameId := robotFrame }, twist := smoother.current }
        node.brake robotFrame deadline readings

/-- Brakes within the deceleration limits and ends by publishing an exact zero. -/
def stopRobot (node : ControllerNode) (readings : StopReadings) : ControllerNode :=
  if !node.velPub && !node.velPubStamped then node
  else
    let node :=
      if invalidRobotLimits node.getRobotLimits = "" then
        let deadline := seconds readings.start + (node.smoother.timeToStop + kStopMargin)
        node.brake readings.robotFrame deadline readings.loop
      else node
    let node := node.publish
      { header := { stamp := readings.last, frameId := readings.robotFrame }, twist := {} }
    { node with
      smoother := node.smoother.reset {}
      mux := node.mux.reset
      guard := node.guard.reset }

/-- `ControllerMethodBase::get_robot_limits`, called by a plugin of the node:
`deprecated` gives the values still configured under an old name. -/
def pluginRobotLimits (node : ControllerNode) (deprecated : String → Option Double) :
    RobotLimits × ControllerNode :=
  let value (field : String) (current : Double) : Double :=
    if node.isRobotLimitConfigured field then current else (deprecated field).getD current
  let limits := node.getRobotLimits
  let limits := { limits with
    maxLinearVel := value "max_linear_vel" limits.maxLinearVel
    minLinearVel := value "min_linear_vel" limits.minLinearVel
    maxAngularVel := value "max_angular_vel" limits.maxAngularVel
    maxLinearAcc := value "max_linear_acc" limits.maxLinearAcc
    maxLinearDecel := value "max_linear_decel" limits.maxLinearDecel
    maxAngularAcc := value "max_angular_acc" limits.maxAngularAcc
    maxAngularDecel := value "max_angular_decel" limits.maxAngularDecel }
  let limits := defaultLateralLimits limits node.isRobotLimitConfigured
  (limits, node.setRobotLimits limits)

def configurePlugin (node : ControllerNode) (loading : PluginLoading) :
    ControllerNode × Bool :=
  let node := loading.queries.foldl (fun node deprecated =>
    (node.pluginRobotLimits deprecated).2) node
  if loading.loads then ({ node with controller := loading.controller }, true)
  else (node, false)

def checkCmdTimeout (node : ControllerNode) : Bool :=
  match node.controller with
  | some ⟨name, some rtFreq⟩ =>
      if name = "" then true else node.guard.checkControllerPeriod (.fin 1 / rtFreq)
  | _ => true

/-- Reads the limits and the parameters of the command supervision. -/
def readConfiguration (node : ControllerNode) (params : ControllerParameters) :
    ControllerNode × Bool :=
  -- Configured limits, until the RT cycle applies the safety channel's state.
  let node := (node.applySafetyChannel {}).readParameters params
  let (guard, valid) :=
    node.guard.configure "controller_node" params.cmdTimeout params.keepalivePeriod
  ({ node with guard := guard }, valid)

def createPublisher (node : ControllerNode) : ControllerNode :=
  if node.useCmdVelStamped then { node with velPubStamped := true }
  else { node with velPub := true }

/-- The robot was left stopped. -/
def startOver (node : ControllerNode) : ControllerNode :=
  { node with
    smoother := node.smoother.reset {}
    mux := node.mux.reset
    lastSmootherStep := none
    lastPublishedZero := false }

def onConfigure (node : ControllerNode) (params : ControllerParameters)
    (loading : PluginLoading) : ControllerNode × CallbackReturn :=
  let (node, valid) := node.readConfiguration params
  if !valid then (node, .failure)
  else
    let (node, loaded) := node.createPublisher.startOver.configurePlugin loading
    if !loaded then (node, .failure)
    else if !node.checkCmdTimeout then ({ node with controller := none }, .failure)
    -- After the plugin: it may apply deprecated limits of its own.
    else if invalidRobotLimits node.getRobotLimits ≠ "" then
      ({ node with controller := none }, .failure)
    else (node, .success)

def onDeactivate (node : ControllerNode) (readings : StopReadings) :
    ControllerNode × CallbackReturn :=
  (node.stopRobot readings, .success)

def onCleanup (node : ControllerNode) : ControllerNode × CallbackReturn :=
  ({ node with controller := none, velPub := false, velPubStamped := false }, .success)

/-- Also when shut down straight from Active, without deactivating. -/
def onShutdown (node : ControllerNode) (readings : StopReadings) :
    ControllerNode × CallbackReturn :=
  ({ node.stopRobot readings with
    controller := none, velPub := false, velPubStamped := false }, .success)

def onError (node : ControllerNode) : ControllerNode × CallbackReturn :=
  ({ node with controller := none }, .success)

/-- A topic is open for the kind of command the node publishes. -/
def Connected (node : ControllerNode) : Prop :=
  if node.useCmdVelStamped then node.velPubStamped = true else node.velPub = true

/-- What only configuring and cleaning up change is the same in both. -/
structure SameTopics (a b : ControllerNode) : Prop where
  useCmdVelStamped : a.useCmdVelStamped = b.useCmdVelStamped
  velPubStamped : a.velPubStamped = b.velPubStamped
  velPub : a.velPub = b.velPub

/-- What the command selection rests on is the same in both. -/
structure SameSupervision (a b : ControllerNode) : Prop where
  mux : a.mux = b.mux
  timeout : CommandGuard.SameTimeout a.guard b.guard

theorem SameTopics.refl (node : ControllerNode) : SameTopics node node := ⟨rfl, rfl, rfl⟩

theorem SameTopics.trans {a b c : ControllerNode} (hab : SameTopics a b)
    (hbc : SameTopics b c) : SameTopics a c :=
  ⟨hab.useCmdVelStamped.trans hbc.useCmdVelStamped,
    hab.velPubStamped.trans hbc.velPubStamped, hab.velPub.trans hbc.velPub⟩

theorem SameTopics.connected {a b : ControllerNode} (h : SameTopics a b)
    (hb : b.Connected) : a.Connected := by
  unfold Connected at *
  rwa [h.useCmdVelStamped, h.velPubStamped, h.velPub]

theorem connected_iff {node : ControllerNode} :
    node.Connected ↔
      (node.useCmdVelStamped && node.velPubStamped ||
        !node.useCmdVelStamped && node.velPub) = true := by
  unfold Connected
  cases node.useCmdVelStamped with
  | false => simp
  | true => simp

theorem Connected.hasPublisher {node : ControllerNode} (h : node.Connected) :
    ¬ (!node.velPub && !node.velPubStamped) = true := by
  intro hnone
  rw [Bool.and_eq_true, Bool.not_eq_true', Bool.not_eq_true'] at hnone
  rw [connected_iff, hnone.1, hnone.2, Bool.and_false, Bool.and_false] at h
  cases h

theorem SameSupervision.refl (node : ControllerNode) : SameSupervision node node :=
  ⟨rfl, rfl, rfl, rfl⟩

variable (node : ControllerNode)

theorem publish_published (hconnected : node.Connected) (cmd : TwistStamped) :
    (node.publish cmd).published = cmd :: node.published :=
  if_pos (connected_iff.mp hconnected)

theorem publish_of_not_connected (h : ¬ node.Connected) (cmd : TwistStamped) :
    (node.publish cmd).published = node.published :=
  if_neg (mt connected_iff.mpr h)

theorem brake_induction {motive : ControllerNode → Prop}
    (hstep : ∀ (node : ControllerNode) (header : Header), motive node →
      motive (({ node with smoother := node.smoother.step {} kStopPeriod }).publish
        { header := header, twist := (node.smoother.step {} kStopPeriod).current }))
    (h : motive node) (robotFrame : String) (deadline : Double)
    (readings : List (Time × Time)) : motive (node.brake robotFrame deadline readings) := by
  induction readings generalizing node with
  | nil => exact h
  | cons reading readings ih =>
      rw [brake]
      split
      · exact h
      · exact ih _ (hstep node _ h)

theorem brake_sameTopics (robotFrame : String) (deadline : Double)
    (readings : List (Time × Time)) :
    SameTopics (node.brake robotFrame deadline readings) node := by
  refine node.brake_induction (motive := fun node' => SameTopics node' node) ?_
    (.refl node) _ _ _
  intro node' header h
  exact ⟨h.useCmdVelStamped, h.velPubStamped, h.velPub⟩

theorem brake_cmdTimeout (robotFrame : String) (deadline : Double)
    (readings : List (Time × Time)) :
    (node.brake robotFrame deadline readings).guard.cmdTimeout = node.guard.cmdTimeout :=
  node.brake_induction (motive := fun node' => node'.guard.cmdTimeout = node.guard.cmdTimeout)
    (fun _ _ h => h) rfl _ _ _

theorem brake_lastSmootherStep (robotFrame : String) (deadline : Double)
    (readings : List (Time × Time)) :
    (node.brake robotFrame deadline readings).lastSmootherStep = node.lastSmootherStep :=
  node.brake_induction (motive := fun node' => node'.lastSmootherStep = node.lastSmootherStep)
    (fun _ _ h => h) rfl _ _ _

theorem stopRobot_cmdTimeout (readings : StopReadings) :
    (node.stopRobot readings).guard.cmdTimeout = node.guard.cmdTimeout := by
  unfold stopRobot
  split
  · rfl
  · dsimp only
    split
    · exact node.brake_cmdTimeout _ _ _
    · rfl

theorem stopRobot_lastSmootherStep (readings : StopReadings) :
    (node.stopRobot readings).lastSmootherStep = node.lastSmootherStep := by
  rw [stopRobot]
  split
  · rfl
  · dsimp only
    split
    · exact node.brake_lastSmootherStep _ _ _
    · rfl

def LastIsZero (node : ControllerNode) : Prop :=
  ∃ cmd earlier, node.published = cmd :: earlier ∧ cmd.twist = {}

/-- A stop sends an exact zero last, and forgets what was commanded. -/
structure Stopped (node : ControllerNode) : Prop where
  lastIsZero : node.LastIsZero
  lastPublishedZero : node.lastPublishedZero = true
  mux : node.mux = {}
  current : node.smoother.current = {}
  lastProposal : node.guard.lastProposal = none
  timedOut : node.guard.timedOut = false

theorem stopRobot_of_connected (hconnected : node.Connected) (readings : StopReadings) :
    (node.stopRobot readings).Stopped ∧ SameTopics (node.stopRobot readings) node := by
  have hbrake : ∀ node' : ControllerNode, SameTopics node' node →
      ({ node'.publish { header := { stamp := readings.last,
                                     frameId := readings.robotFrame }, twist := {} } with
        smoother := node'.smoother.reset {}
        mux := node'.mux.reset
        guard := (node'.guard.published readings.last).reset } : ControllerNode).Stopped := by
    intro node' hsame
    have hpublished := node'.publish_published (hsame.connected hconnected)
      { header := { stamp := readings.last, frameId := readings.robotFrame }, twist := {} }
    exact ⟨⟨_, _, hpublished, rfl⟩, isZero_iff.mpr rfl, rfl, rfl, rfl, rfl⟩
  unfold stopRobot
  rw [if_neg hconnected.hasPublisher]
  dsimp only
  split
  · have hsame := node.brake_sameTopics readings.robotFrame
      (seconds readings.start + (node.smoother.timeToStop + kStopMargin)) readings.loop
    exact ⟨hbrake _ hsame, ⟨hsame.1, hsame.2, hsame.3⟩⟩
  · exact ⟨hbrake _ (.refl node), ⟨rfl, rfl, rfl⟩⟩

theorem stopRobot_mux (readings : StopReadings) :
    (node.stopRobot readings).mux = node.mux ∨ (node.stopRobot readings).mux = {} := by
  rw [stopRobot]
  split
  · exact Or.inl rfl
  · exact Or.inr rfl

theorem publishCmdVelRt_nav (nav : NavState) (now : Time) :
    (node.publishCmdVelRt nav now).2.cmdVel = nav.cmdVel ∧
      ∀ source, peek (node.publishCmdVelRt nav now).2 source = none := by
  have hselect : ∀ mux : VelocityMux,
      (mux.select (CommandGuard.discardNonFinite nav).2).2.2.cmdVel = nav.cmdVel := by
    intro mux
    rw [mux.select_cmdVel, (CommandGuard.discardNonFinite_sameButProposals nav).cmdVel]
  rw [publishCmdVelRt, superviseCommand]
  constructor
  · exact (CommandGuard.report_sameCommands _ _ _ _).cmdVel.trans (hselect _)
  · intro source
    exact ((CommandGuard.report_sameCommands _ _ _ _).peek_eq source).trans
      (VelocityMux.peek_select _ _ source)

def LimitsEnforced (node : ControllerNode) : Prop :=
  node.smoother.limits = node.getRobotLimits

/-- Everything but the robot limits is the same in both. -/
structure SameButLimits (a b : ControllerNode) : Prop where
  safetyChannel : a.safetyChannel = b.safetyChannel
  configuredLimits : a.configuredLimits = b.configuredLimits
  topics : SameTopics a b
  mux : a.mux = b.mux
  guard : a.guard = b.guard
  current : a.smoother.current = b.smoother.current
  lastSmootherStep : a.lastSmootherStep = b.lastSmootherStep
  lastPublishedZero : a.lastPublishedZero = b.lastPublishedZero
  published : a.published = b.published

theorem SameButLimits.trans {a b c : ControllerNode} (hab : SameButLimits a b)
    (hbc : SameButLimits b c) : SameButLimits a c :=
  ⟨hab.safetyChannel.trans hbc.safetyChannel,
    hab.configuredLimits.trans hbc.configuredLimits, hab.topics.trans hbc.topics,
    hab.mux.trans hbc.mux, hab.guard.trans hbc.guard, hab.current.trans hbc.current,
    hab.lastSmootherStep.trans hbc.lastSmootherStep,
    hab.lastPublishedZero.trans hbc.lastPublishedZero, hab.published.trans hbc.published⟩

@[simp] theorem setRobotLimits_robotLimits (limits : RobotLimits) :
    (node.setRobotLimits limits).robotLimits = limits := rfl

theorem setRobotLimits_limitsEnforced (limits : RobotLimits) :
    (node.setRobotLimits limits).LimitsEnforced := rfl

theorem applySafetyChannel_limitsEnforced (state : SafetyChannelState) :
    (node.applySafetyChannel state).LimitsEnforced := rfl

theorem setRobotLimits_sameButLimits (limits : RobotLimits) :
    SameButLimits (node.setRobotLimits limits) node :=
  ⟨rfl, rfl, ⟨rfl, rfl, rfl⟩, rfl, rfl, rfl, rfl, rfl, rfl⟩

theorem pluginRobotLimits_sameButLimits (deprecated : String → Option Double) :
    SameButLimits (node.pluginRobotLimits deprecated).2 node :=
  node.setRobotLimits_sameButLimits _

theorem configurePlugin_induction {motive : ControllerNode → Prop}
    (hquery : ∀ node deprecated, motive node →
      motive (ControllerNode.pluginRobotLimits node deprecated).2)
    (hload : ∀ node controller, motive node → motive { node with controller := controller })
    (h : motive node) (loading : PluginLoading) :
    motive (node.configurePlugin loading).1 := by
  have hqueries : ∀ queries : List (String → Option Double), ∀ node : ControllerNode,
      motive node → motive (queries.foldl (fun node deprecated =>
        (node.pluginRobotLimits deprecated).2) node) := by
    intro queries
    induction queries with
    | nil => exact fun node h => h
    | cons deprecated queries ih => exact fun node h => ih _ (hquery node deprecated h)
  unfold configurePlugin
  dsimp only
  split
  · exact hload _ _ (hqueries _ _ h)
  · exact hqueries _ _ h

theorem configurePlugin_sameButLimits (hlimits : node.LimitsEnforced)
    (loading : PluginLoading) :
    SameButLimits (node.configurePlugin loading).1 node ∧
      (node.configurePlugin loading).1.LimitsEnforced := by
  refine node.configurePlugin_induction
    (motive := fun node' => SameButLimits node' node ∧ node'.LimitsEnforced) ?_ ?_
    ⟨⟨rfl, rfl, .refl node, rfl, rfl, rfl, rfl, rfl, rfl⟩, hlimits⟩ loading
  · rintro node' deprecated ⟨hsame, -⟩
    exact ⟨(node'.pluginRobotLimits_sameButLimits deprecated).trans hsame,
      node'.setRobotLimits_limitsEnforced _⟩
  · rintro node' controller ⟨⟨h1, h2, h3, h4, h5, h6, h7, h8, h9⟩, henforced⟩
    exact ⟨⟨h1, h2, ⟨h3.1, h3.2, h3.3⟩, h4, h5, h6, h7, h8, h9⟩, henforced⟩

/-- A node as a successful configure leaves it. -/
structure Ready (node : ControllerNode) (params : ControllerParameters) : Prop where
  valid : invalidRobotLimits node.getRobotLimits = ""
  limitsEnforced : node.LimitsEnforced
  unrestricted : node.safetyChannel = {}
  connected : node.Connected
  mux : node.mux = {}
  current : node.smoother.current = {}
  cmdTimeout : node.guard.cmdTimeout = params.cmdTimeout
  lastProposal : node.guard.lastProposal = none
  timedOut : node.guard.timedOut = false
  lastPublishedZero : node.lastPublishedZero = false

theorem createPublisher_connected : node.createPublisher.Connected := by
  unfold createPublisher Connected
  split
  · simp
  · simp

theorem onConfigure_eq {configured : ControllerNode} {params : ControllerParameters}
    {loading : PluginLoading}
    (h : node.onConfigure params loading = (configured, .success)) :
    invalidRobotLimits configured.getRobotLimits = "" ∧
      configured = ((node.readConfiguration params).1.createPublisher.startOver.configurePlugin
        loading).1 := by
  unfold onConfigure at h
  dsimp only at h
  split at h
  · exact absurd (Prod.ext_iff.mp h).2 (by simp)
  · split at h
    · exact absurd (Prod.ext_iff.mp h).2 (by simp)
    · split at h
      · exact absurd (Prod.ext_iff.mp h).2 (by simp)
      · split at h
        · exact absurd (Prod.ext_iff.mp h).2 (by simp)
        · rename_i hvalid
          have hnode := (Prod.ext_iff.mp h).1
          dsimp only at hnode
          rw [← hnode]
          exact ⟨not_not.mp hvalid, rfl⟩

theorem readConfiguration_timeout (params : ControllerParameters) :
    (node.readConfiguration params).1.guard.cmdTimeout = params.cmdTimeout ∧
      (node.readConfiguration params).1.guard.lastProposal = none ∧
        (node.readConfiguration params).1.guard.timedOut = false := by
  unfold readConfiguration CommandGuard.configure
  dsimp only
  split <;> exact ⟨rfl, rfl, rfl⟩

theorem createPublisher_guard : node.createPublisher.guard = node.guard := by
  unfold createPublisher
  split <;> rfl

theorem createPublisher_safetyChannel :
    node.createPublisher.safetyChannel = node.safetyChannel := by
  unfold createPublisher
  split <;> rfl

theorem createPublisher_limitsEnforced (h : node.LimitsEnforced) :
    node.createPublisher.LimitsEnforced := by
  unfold createPublisher
  split
  · exact h
  · exact h

theorem startOver_limitsEnforced (params : ControllerParameters) :
    (node.readConfiguration params).1.createPublisher.startOver.LimitsEnforced :=
  createPublisher_limitsEnforced _ rfl

/-- Every limit is as configured, the lateral ones included. -/
def LateralSettled (node : ControllerNode) : Prop :=
  defaultLateralLimits node.robotLimits node.isRobotLimitConfigured = node.robotLimits

theorem pluginRobotLimits_lateralSettled (deprecated : String → Option Double) :
    (node.pluginRobotLimits deprecated).2.LateralSettled :=
  defaultLateralLimits_idem _ _

theorem onConfigure_lateralSettled {configured : ControllerNode}
    {params : ControllerParameters} {loading : PluginLoading}
    (h : node.onConfigure params loading = (configured, .success)) :
    configured.LateralSettled := by
  obtain ⟨-, hconfigured⟩ := node.onConfigure_eq h
  rw [hconfigured]
  refine configurePlugin_induction _ ?_ ?_ ?_ loading
  · exact fun node deprecated _ => node.pluginRobotLimits_lateralSettled deprecated
  · exact fun _ _ h => h
  · have hread : (node.readConfiguration params).1.LateralSettled :=
      defaultLateralLimits_idem _ _
    unfold createPublisher
    split <;> exact hread

theorem onConfigure_mux (params : ControllerParameters) (loading : PluginLoading) :
    (node.onConfigure params loading).1.mux = node.mux ∨
      (node.onConfigure params loading).1.mux = {} := by
  obtain ⟨hsame, -⟩ :=
    configurePlugin_sameButLimits _ (node.startOver_limitsEnforced params) loading
  have hmux := hsame.mux
  rw [onConfigure]
  dsimp only
  split
  · exact Or.inl rfl
  · right
    split
    · exact hmux
    · split
      · exact hmux
      · split
        · exact hmux
        · exact hmux

theorem onConfigure_ready {configured : ControllerNode} {params : ControllerParameters}
    {loading : PluginLoading}
    (h : node.onConfigure params loading = (configured, .success)) :
    configured.Ready params := by
  obtain ⟨hvalid, hconfigured⟩ := node.onConfigure_eq h
  obtain ⟨hsame, hfinal⟩ :=
    configurePlugin_sameButLimits _ (node.startOver_limitsEnforced params) loading
  rw [← hconfigured] at hsame hfinal
  have hguard : configured.guard = (node.readConfiguration params).1.guard :=
    hsame.guard.trans (createPublisher_guard _)
  obtain ⟨htimeout, hproposal, hout⟩ := node.readConfiguration_timeout params
  exact {
    valid := hvalid
    limitsEnforced := hfinal
    unrestricted := hsame.safetyChannel.trans (createPublisher_safetyChannel _)
    connected := hsame.topics.connected (createPublisher_connected _)
    mux := hsame.mux
    current := hsame.current
    cmdTimeout := by rw [hguard, htimeout]
    lastProposal := by rw [hguard, hproposal]
    timedOut := by rw [hguard, hout]
    lastPublishedZero := hsame.lastPublishedZero }

theorem onConfigure_lastSmootherStep {configured : ControllerNode}
    {params : ControllerParameters} {loading : PluginLoading}
    (h : node.onConfigure params loading = (configured, .success)) :
    configured.lastSmootherStep = none := by
  obtain ⟨-, hconfigured⟩ := node.onConfigure_eq h
  obtain ⟨hsame, -⟩ :=
    configurePlugin_sameButLimits _ (node.startOver_limitsEnforced params) loading
  rw [hconfigured]
  exact hsame.lastSmootherStep

theorem applySafetyChannel_sameTopics (state : SafetyChannelState) :
    SameTopics (node.applySafetyChannel state) node := ⟨rfl, rfl, rfl⟩

theorem followSafetyStatus_eq (nav : NavState) :
    node.followSafetyStatus nav = node ∨
      ∃ state, node.followSafetyStatus nav = node.applySafetyChannel state := by
  unfold followSafetyStatus
  split
  · split
    · exact Or.inl rfl
    · exact Or.inr ⟨_, rfl⟩
  · exact Or.inl rfl

theorem followSafetyStatus_sameTopics (nav : NavState) :
    SameTopics (node.followSafetyStatus nav) node := by
  rcases node.followSafetyStatus_eq nav with h | ⟨state, h⟩ <;> rw [h]
  · exact .refl node
  · exact node.applySafetyChannel_sameTopics state

theorem followSafetyStatus_sameSupervision (nav : NavState) :
    SameSupervision (node.followSafetyStatus nav) node := by
  rcases node.followSafetyStatus_eq nav with h | ⟨state, h⟩ <;> rw [h]
  · exact .refl node
  · exact ⟨rfl, rfl, rfl, rfl⟩

/-- What a cycle does with its selection: nothing, a step of the smoother, or an
override. -/
theorem publishSelection_cases (selection : Selection) (now : Time) :
    (selection.smooth = true ∧
        (node.beforeStep selection now).nothingToPublish selection now = true ∧
        node.publishSelection selection now = node.beforeStep selection now) ∨
      (selection.smooth = true ∧
        node.publishSelection selection now =
          (node.beforeStep selection now).publishSmoothed selection now
            (node.smootherStep now)) ∨
      (selection.smooth = false ∧
        node.publishSelection selection now =
          (node.beforeStep selection now).publishOverride selection now) := by
  rw [publishSelection]
  split
  · rename_i hsmooth
    split
    · rename_i hnothing
      exact Or.inl ⟨hsmooth, hnothing, rfl⟩
    · exact Or.inr (Or.inl ⟨hsmooth, rfl⟩)
  · rename_i hsmooth
    exact Or.inr (Or.inr ⟨Bool.eq_false_iff.mpr hsmooth, rfl⟩)

theorem publishSelection_sameTopics (selection : Selection) (now : Time) :
    SameTopics (node.publishSelection selection now) node := by
  rcases node.publishSelection_cases selection now with ⟨-, -, h⟩ | ⟨-, h⟩ | ⟨-, h⟩ <;> rw [h] <;>
    exact ⟨rfl, rfl, rfl⟩

theorem publishSelection_sameSupervision (selection : Selection) (now : Time) :
    SameSupervision (node.publishSelection selection now) node := by
  rcases node.publishSelection_cases selection now with ⟨-, -, h⟩ | ⟨-, h⟩ | ⟨-, h⟩ <;> rw [h] <;>
    exact ⟨rfl, rfl, rfl, rfl⟩

theorem cycleRt_node (nav : NavState) (plugin : NavState → ControllerRun) :
    ∃ guard, CommandGuard.SameTimeout guard node.guard ∧
      (node.cycleRt nav plugin).2.1 = { node with guard := guard } := by
  rw [cycleRt]
  split
  · exact ⟨node.guard, ⟨rfl, rfl, rfl⟩, rfl⟩
  · dsimp only
    split
    · exact ⟨_, node.guard.isNew_sameTimeout _, rfl⟩
    · exact ⟨node.guard, ⟨rfl, rfl, rfl⟩, rfl⟩

theorem cycleRt_nav (nav : NavState) (plugin : NavState → ControllerRun) :
    (node.cycleRt nav plugin).2.2 = nav ∨
      node.controller.isSome = true ∧
        ((node.cycleRt nav plugin).2.2 = (plugin nav).nav ∨
          ∃ cmd, (plugin nav).ran = true ∧ (plugin nav).nav.cmdVel = some cmd ∧
            (node.cycleRt nav plugin).2.2 = propose (plugin nav).nav .controller cmd) := by
  rw [cycleRt]
  split
  · exact Or.inl rfl
  · rename_i loaded hloaded
    refine Or.inr ⟨by rw [hloaded]; rfl, ?_⟩
    dsimp only
    split
    · rename_i cmd hran hcmd
      dsimp only
      split
      · exact Or.inr ⟨cmd, hran, hcmd, rfl⟩
      · exact Or.inl rfl
    · exact Or.inl rfl

/-- What neither the plugin nor a proposal writes, a cycle of the plugin leaves alone. -/
theorem cycleRt_field {α : Type} (field : NavState → α)
    (hpropose : ∀ nav source cmd, field (propose nav source cmd) = field nav)
    {plugin : NavState → ControllerRun} (hplugin : ∀ nav, field (plugin nav).nav = field nav)
    (nav : NavState) : field (node.cycleRt nav plugin).2.2 = field nav := by
  rcases node.cycleRt_nav nav plugin with h | ⟨-, h | ⟨cmd, -, -, h⟩⟩
  · rw [h]
  · rw [h, hplugin]
  · rw [h, hpropose, hplugin]

theorem cycleRt_sameTopics (nav : NavState) (plugin : NavState → ControllerRun) :
    SameTopics (node.cycleRt nav plugin).2.1 node := by
  obtain ⟨guard, -, h⟩ := node.cycleRt_node nav plugin
  rw [h]
  exact ⟨rfl, rfl, rfl⟩

theorem cycleRt_sameSupervision (nav : NavState) (plugin : NavState → ControllerRun) :
    SameSupervision (node.cycleRt nav plugin).2.1 node := by
  obtain ⟨guard, hguard, h⟩ := node.cycleRt_node nav plugin
  rw [h]
  exact ⟨rfl, hguard⟩

theorem superviseCommand_sameTopics (nav : NavState) (now : Time) :
    SameTopics (node.superviseCommand nav now).2.1 node := ⟨rfl, rfl, rfl⟩

theorem publishCmdVelRt_sameTopics (nav : NavState) (now : Time) :
    SameTopics (node.publishCmdVelRt nav now).1 node := by
  unfold publishCmdVelRt
  exact (publishSelection_sameTopics _ _ _).trans
    ((superviseCommand_sameTopics _ _ _).trans (node.followSafetyStatus_sameTopics nav))

/-- The limits and what they are made of are the same in both. -/
structure SameLimits (a b : ControllerNode) : Prop where
  robotLimits : a.robotLimits = b.robotLimits
  safetyChannel : a.safetyChannel = b.safetyChannel
  configuredLimits : a.configuredLimits = b.configuredLimits
  enforced : a.smoother.limits = b.smoother.limits

theorem SameLimits.refl (node : ControllerNode) : SameLimits node node :=
  ⟨rfl, rfl, rfl, rfl⟩

theorem SameLimits.trans {a b c : ControllerNode} (hab : SameLimits a b)
    (hbc : SameLimits b c) : SameLimits a c :=
  ⟨hab.robotLimits.trans hbc.robotLimits, hab.safetyChannel.trans hbc.safetyChannel,
    hab.configuredLimits.trans hbc.configuredLimits, hab.enforced.trans hbc.enforced⟩

theorem SameLimits.getRobotLimits {a b : ControllerNode} (h : SameLimits a b) :
    a.getRobotLimits = b.getRobotLimits := by
  unfold ControllerNode.getRobotLimits
  rw [h.robotLimits, h.safetyChannel]

theorem SameLimits.limitsEnforced {a b : ControllerNode} (h : SameLimits a b)
    (hb : b.LimitsEnforced) : a.LimitsEnforced := by
  unfold LimitsEnforced at *
  rw [h.enforced, h.getRobotLimits, hb]

theorem superviseCommand_sameLimits (nav : NavState) (now : Time) :
    SameLimits (node.superviseCommand nav now).2.1 node := ⟨rfl, rfl, rfl, rfl⟩

theorem publishSmoothed_sameLimits (selection : Selection) (now : Time) (dt : Double) :
    SameLimits (node.publishSmoothed selection now dt) node := ⟨rfl, rfl, rfl, rfl⟩

theorem publishOverride_sameLimits (selection : Selection) (now : Time) :
    SameLimits (node.publishOverride selection now) node := ⟨rfl, rfl, rfl, rfl⟩

theorem publishSelection_sameLimits (selection : Selection) (now : Time) :
    SameLimits (node.publishSelection selection now) node := by
  have hbefore : SameLimits (node.beforeStep selection now) node := by
    unfold beforeStep
    refine ⟨rfl, rfl, rfl, ?_⟩
    dsimp only
    split <;> rfl
  rcases node.publishSelection_cases selection now with ⟨-, -, h⟩ | ⟨-, h⟩ | ⟨-, h⟩ <;> rw [h]
  · exact hbefore
  · exact (publishSmoothed_sameLimits _ _ _ _).trans hbefore
  · exact (publishOverride_sameLimits _ _ _).trans hbefore

theorem publishCmdVelRt_sameLimits (nav : NavState) (now : Time) :
    SameLimits (node.publishCmdVelRt nav now).1 (node.followSafetyStatus nav) := by
  unfold publishCmdVelRt
  exact (publishSelection_sameLimits _ _ _).trans (superviseCommand_sameLimits _ _ _)

theorem cycleRt_sameLimits (nav : NavState) (plugin : NavState → ControllerRun) :
    SameLimits (node.cycleRt nav plugin).2.1 node := by
  obtain ⟨guard, -, h⟩ := node.cycleRt_node nav plugin
  rw [h]
  exact ⟨rfl, rfl, rfl, rfl⟩

theorem brake_sameLimits (robotFrame : String) (deadline : Double)
    (readings : List (Time × Time)) :
    SameLimits (node.brake robotFrame deadline readings) node := by
  refine node.brake_induction (motive := fun node' => SameLimits node' node) ?_
    (.refl node) _ _ _
  intro node' header h
  exact ⟨h.robotLimits, h.safetyChannel, h.configuredLimits, h.enforced⟩

theorem stopRobot_sameLimits (readings : StopReadings) :
    SameLimits (node.stopRobot readings) node := by
  unfold stopRobot
  split
  · exact .refl node
  · dsimp only
    split
    · obtain ⟨h1, h2, h3, h4⟩ := node.brake_sameLimits readings.robotFrame
        (seconds readings.start + (node.smoother.timeToStop + kStopMargin)) readings.loop
      exact ⟨h1, h2, h3, h4⟩
    · exact ⟨rfl, rfl, rfl, rfl⟩

theorem followSafetyStatus_limitsEnforced (h : node.LimitsEnforced) (nav : NavState) :
    (node.followSafetyStatus nav).LimitsEnforced := by
  rcases node.followSafetyStatus_eq nav with heq | ⟨state, heq⟩ <;> rw [heq]
  · exact h
  · exact node.applySafetyChannel_limitsEnforced state

theorem followSafetyStatus_robotLimits (nav : NavState) :
    (node.followSafetyStatus nav).robotLimits = node.robotLimits ∧
      (node.followSafetyStatus nav).configuredLimits = node.configuredLimits := by
  rcases node.followSafetyStatus_eq nav with h | ⟨state, h⟩ <;> rw [h] <;> exact ⟨rfl, rfl⟩

theorem followSafetyStatus_safetyChannel {nav : NavState} {state : SafetyChannelState}
    (h : nav.safetyStatus = some state) :
    (node.followSafetyStatus nav).safetyChannel = state := by
  unfold followSafetyStatus
  rw [h]
  dsimp only
  split
  · rename_i heq
    exact (SafetyChannelState.eq_of_eq heq).symm
  · rfl

/-- What the robot was commanded, and when, is the same in both. -/
structure SameMotion (a b : ControllerNode) : Prop where
  current : a.smoother.current = b.smoother.current
  lastSmootherStep : a.lastSmootherStep = b.lastSmootherStep
  lastPublishedZero : a.lastPublishedZero = b.lastPublishedZero
  published : a.published = b.published

theorem SameMotion.trans {a b c : ControllerNode} (hab : SameMotion a b)
    (hbc : SameMotion b c) : SameMotion a c :=
  ⟨hab.current.trans hbc.current, hab.lastSmootherStep.trans hbc.lastSmootherStep,
    hab.lastPublishedZero.trans hbc.lastPublishedZero, hab.published.trans hbc.published⟩

theorem cycleRt_sameMotion (nav : NavState) (plugin : NavState → ControllerRun) :
    SameMotion (node.cycleRt nav plugin).2.1 node := by
  obtain ⟨guard, -, h⟩ := node.cycleRt_node nav plugin
  rw [h]
  exact ⟨rfl, rfl, rfl, rfl⟩

theorem followSafetyStatus_sameMotion (nav : NavState) :
    SameMotion (node.followSafetyStatus nav) node := by
  rcases node.followSafetyStatus_eq nav with h | ⟨state, h⟩ <;> rw [h] <;>
    exact ⟨rfl, rfl, rfl, rfl⟩

theorem superviseCommand_sameMotion (nav : NavState) (now : Time) :
    SameMotion (node.superviseCommand nav now).2.1 node := ⟨rfl, rfl, rfl, rfl⟩

theorem smootherStep_fin (now : Time) : ∃ dt : ℚ, node.smootherStep now = .fin dt := by
  unfold smootherStep
  split
  · rcases clamp_cases (seconds (now - _)) (show (0 : ℚ) ≤ 1 / 10 by norm_num) with
      ⟨hnan, -⟩ | ⟨dt, -, -, h⟩
    · exact absurd hnan (by simp [seconds_eq])
    · exact ⟨dt, h⟩
  · exact ⟨0, rfl⟩

end ControllerNode

end EasyNav.CommandPublication
