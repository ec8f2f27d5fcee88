import EasyNav.FiniteCommands
import EasyNav.SafetySupervision

namespace EasyNav.SafeLimits

open EasyNav.ExtendedArithmetic
open EasyNav.ExtendedArithmetic.Extended
open EasyNav.DoubleArithmetic
open EasyNav.SpeedLimits
open EasyNav.NavigationState
open EasyNav.AxisRamp
open EasyNav.VelocityRamp
open EasyNav.VelocitySelection
open EasyNav.CommandSupervision
open EasyNav.CommandPublication
open EasyNav.CommandTimeout
open EasyNav.FiniteCommands
open EasyNav.SafetySupervision
open EasyNav.Lifecycle
open EasyNav.Runs

/-- What is done to the monitor of the safety channel. -/
inductive MonitorCall where
  | configure (timeout : Double)
  | received (msg : SafetyStatus) (steady : Time)

def call (monitor : SafetyChannelMonitor) : MonitorCall → SafetyChannelMonitor
  | .configure timeout => monitor.configure timeout
  | .received msg steady => monitor.received msg steady

def monitorAfter (calls : List MonitorCall) : SafetyChannelMonitor := calls.foldl call {}

/-- What the safety channel imposes after these calls. -/
def imposedAfter (calls : List MonitorCall) (steady : Time) : SafetyChannelState :=
  ((monitorAfter calls).evaluate steady).state

section Checked

/-- `std::clamp`, if its bounds are in order. -/
def checkedClamp (v lo hi : Double) : Option Double :=
  if lo ≤ hi then some (Extended.clamp v lo hi) else none

def checkedStepAxis (current target acc decel dt : Double) : Option Double := do
  let maxDelta := (if slowing current target then decel else acc) * dt
  let delta ← checkedClamp (target - current) (-maxDelta) maxDelta
  let next := current + delta
  if decide (0 < current) && decide (next < 0) || decide (current < 0) && decide (0 < next) then
    some 0
  else some next

def checkedWithinRadius (angular linear radius : Double) : Option Double :=
  if radius ≤ 0 then some angular
  else
    let maxAngular := Extended.abs linear / radius
    checkedClamp angular (-maxAngular) maxAngular

/-- `VelocitySmoother.clamp` with its calls of `std::clamp` checked. -/
def checkedTarget (s : VelocitySmoother) (target : Twist) : Option Twist := do
  let x ← checkedClamp target.linear.x s.limits.minLinearVel s.limits.maxLinearVel
  let y ← checkedClamp target.linear.y (-s.limits.maxLateralVel) s.limits.maxLateralVel
  let z ← checkedClamp target.linear.z (-s.limits.maxVerticalVel) s.limits.maxVerticalVel
  let yaw ← checkedClamp target.angular.z (-s.limits.maxAngularVel) s.limits.maxAngularVel
  let yaw ← checkedWithinRadius yaw x s.limits.minTurningRadius
  some { linear := { x := x, y := y, z := z }, angular := { z := yaw } }

def checkedRamp (s : VelocitySmoother) (target : Twist) (dt : Double) :
    Option VelocitySmoother := do
  let goal ← checkedTarget s target
  let dt := stdMax dt 0
  let x ← checkedStepAxis s.current.linear.x goal.linear.x s.limits.maxLinearAcc
    s.limits.maxLinearDecel dt
  let y ← checkedStepAxis s.current.linear.y goal.linear.y s.limits.maxLateralAcc
    s.limits.maxLateralDecel dt
  let z ← checkedStepAxis s.current.linear.z goal.linear.z s.limits.maxVerticalAcc
    s.limits.maxVerticalDecel dt
  let yaw ← checkedStepAxis s.current.angular.z goal.angular.z s.limits.maxAngularAcc
    s.limits.maxAngularDecel dt
  let yaw ← checkedWithinRadius yaw x s.limits.minTurningRadius
  some { s with
    current :=
      { linear := { x := x, y := y, z := z }
        angular := { s.current.angular with z := yaw } } }

def checkedReached (s : VelocitySmoother) (target : Twist) : Option Bool := do
  let goal ← checkedTarget s target
  some (decide (Extended.abs (s.current.linear.x - goal.linear.x) < kEpsilon) &&
    decide (Extended.abs (s.current.linear.y - goal.linear.y) < kEpsilon) &&
    decide (Extended.abs (s.current.linear.z - goal.linear.z) < kEpsilon) &&
    decide (Extended.abs (s.current.angular.z - goal.angular.z) < kEpsilon))

def checkedNothingToPublish (node : ControllerNode) (selection : Selection) (now : Time) :
    Option Bool := do
  let reached ← checkedReached node.smoother selection.cmd.twist
  let atRest := node.lastPublishedZero && isZero selection.cmd.twist
  some ((!selection.fresh || atRest) && !!reached && !node.guard.keepaliveDue now)

def checkedPublishSmoothed (node : ControllerNode) (selection : Selection) (now : Time)
    (dt : Double) : Option ControllerNode := do
  let smoother ← checkedRamp node.smoother selection.cmd.twist dt
  some ({ node with smoother := smoother }.publish
    { header := { selection.cmd.header with stamp := now }, twist := smoother.current })

def checkedPublishSelection (node : ControllerNode) (selection : Selection) (now : Time) :
    Option ControllerNode :=
  let dt := node.smootherStep now
  let node := node.beforeStep selection now
  if selection.smooth then do
    let nothing ← checkedNothingToPublish node selection now
    if nothing then some node else checkedPublishSmoothed node selection now dt
  else some (node.publishOverride selection now)

def checkedBrake (node : ControllerNode) (robotFrame : String) (deadline : Double) :
    List (Time × Time) → Option ControllerNode
  | [] => some node
  | (steady, now) :: readings => do
      let reached ← checkedReached node.smoother {}
      if reached || !decide (seconds steady < deadline) then some node
      else
        let smoother ← checkedRamp node.smoother {} kStopPeriod
        checkedBrake ({ node with smoother := smoother }.publish
          { header := { stamp := now, frameId := robotFrame }, twist := smoother.current })
          robotFrame deadline readings

/-- The end of a stop: an exact zero, and nothing that was commanded is kept. -/
def finishStop (node : ControllerNode) (readings : StopReadings) : ControllerNode :=
  let node := node.publish
    { header := { stamp := readings.last, frameId := readings.robotFrame }, twist := {} }
  { node with
    smoother := node.smoother.reset {}
    mux := node.mux.reset
    guard := node.guard.reset }

def brakingDeadline (node : ControllerNode) (readings : StopReadings) : Double :=
  seconds readings.start + (node.smoother.timeToStop + kStopMargin)

def checkedStopRobot (node : ControllerNode) (readings : StopReadings) : Option ControllerNode :=
  if !node.velPub && !node.velPubStamped then some node
  else if invalidRobotLimits node.getRobotLimits = "" then do
    let node ← checkedBrake node readings.robotFrame (brakingDeadline node readings) readings.loop
    some (finishStop node readings)
  else some (finishStop node readings)

/-- One cycle or stop of the node, if each `std::clamp` in it has its bounds in order. -/
def checkedStep (node : ControllerNode) : Event → Option ControllerNode
  | .cycle c => checkedPublishSelection (supervised node c) (target node c) c.now
  | .stop readings => checkedStopRobot node readings

end Checked

section Clamps

theorem checkedClamp_fin (v : Double) {lo hi : ℚ} (h : lo ≤ hi) :
    checkedClamp v (.fin lo) (.fin hi) = some (Extended.clamp v (.fin lo) (.fin hi)) :=
  if_pos (fin_le_fin.mpr h)

theorem checkedClamp_neg (v : Double) {hi : ℚ} (h : 0 ≤ hi) :
    checkedClamp v (-.fin hi) (.fin hi) = some (Extended.clamp v (-.fin hi) (.fin hi)) := by
  rw [neg_fin]
  exact checkedClamp_fin v (neg_le_self h)

theorem checkedWithinRadius_fin (angular : Double) (linear : ℚ) {radius : ℚ}
    (hradius : 0 ≤ radius) :
    checkedWithinRadius angular (.fin linear) (.fin radius) =
      some (withinRadius angular (.fin linear) (.fin radius)) := by
  rw [checkedWithinRadius, withinRadius]
  split
  · rfl
  · rename_i hpos
    have hne : radius ≠ 0 := by
      rintro rfl
      exact hpos (fin_le_fin.mpr le_rfl)
    dsimp only
    rw [abs_fin, div_fin hne]
    exact checkedClamp_neg angular (div_nonneg (abs_nonneg linear) hradius)

theorem checkedStepAxis_fin {acc decel dt : ℚ} (current target : Double) (hacc : 0 ≤ acc)
    (hdecel : 0 ≤ decel) (hdt : 0 ≤ dt) :
    checkedStepAxis current target (.fin acc) (.fin decel) (.fin dt) =
      some (stepAxis current target (.fin acc) (.fin decel) (.fin dt)) := by
  have hdelta : ∃ delta : ℚ, 0 ≤ delta ∧
      (if slowing current target then (.fin decel : Double) else .fin acc) * .fin dt =
        .fin delta := by
    split
    · exact ⟨decel * dt, mul_nonneg hdecel hdt, mul_fin _ _⟩
    · exact ⟨acc * dt, mul_nonneg hacc hdt, mul_fin _ _⟩
  obtain ⟨delta, hnonneg, hdelta⟩ := hdelta
  rw [checkedStepAxis, stepAxis]
  dsimp only
  rw [hdelta, checkedClamp_neg _ hnonneg, Option.bind_eq_bind, Option.bind_some]
  split
  · rfl
  · rfl

variable {s : VelocitySmoother} {e : ExactLimits} {a t : ExactCommand} {target : Twist}

theorem checkedTarget_eq (hlimits : s.limits = e.toRobotLimits) (ht : t.Agrees target) :
    checkedTarget s target = some (s.clamp target) := by
  have hx : Extended.clamp target.linear.x (.fin e.minLinearVel) (.fin e.maxLinearVel) =
      .fin (max e.minLinearVel (min e.maxLinearVel t.x)) := by
    rw [ht.x]
    exact clamp_fin e.minLinearVel_le_maxLinearVel
  rw [checkedTarget, VelocitySmoother.clamp, hlimits]
  dsimp only [ExactLimits.toRobotLimits]
  rw [checkedClamp_fin _ e.minLinearVel_le_maxLinearVel,
    checkedClamp_neg _ e.maxLateralVel_nonneg, checkedClamp_neg _ e.maxVerticalVel_nonneg,
    checkedClamp_neg _ e.maxAngularVel_nonneg, hx]
  simp only [Option.bind_eq_bind, Option.bind_some]
  rw [checkedWithinRadius_fin _ _ e.minTurningRadius_nonneg, Option.bind_some]

theorem checkedRamp_eq (hlimits : s.limits = e.toRobotLimits) (ha : a.Agrees s.current)
    (ht : t.Agrees target) (dt : ℚ) :
    checkedRamp s target (.fin dt) = some (s.step target (.fin dt)) := by
  have hdt : 0 ≤ max dt 0 := le_max_right _ _
  have hx : stepAxis s.current.linear.x (s.clamp target).linear.x (.fin e.maxLinearAcc)
        (.fin e.maxLinearDecel) (.fin (max dt 0)) =
      .fin (ramp a.x (t.clamp e).x e.maxLinearAcc e.maxLinearDecel (max dt 0)) := by
    rw [ha.x, ExactCommand.smoother_clamp_eq hlimits ht]
    exact stepAxis_fin e.maxLinearAcc_pos.le e.maxLinearDecel_pos.le hdt
  rw [checkedRamp, checkedTarget_eq hlimits ht, Option.bind_eq_bind, Option.bind_some,
    VelocitySmoother.step]
  simp only [hlimits, ExactLimits.toRobotLimits, zero_def, stdMax_fin] at hx ⊢
  rw [checkedStepAxis_fin _ _ e.maxLinearAcc_pos.le e.maxLinearDecel_pos.le hdt,
    checkedStepAxis_fin _ _ e.maxLateralAcc_pos.le e.maxLateralDecel_pos.le hdt,
    checkedStepAxis_fin _ _ e.maxVerticalAcc_pos.le e.maxVerticalDecel_pos.le hdt,
    checkedStepAxis_fin _ _ e.maxAngularAcc_pos.le e.maxAngularDecel_pos.le hdt, hx]
  simp only [Option.bind_eq_bind, Option.bind_some]
  rw [checkedWithinRadius_fin _ _ e.minTurningRadius_nonneg, Option.bind_some]

theorem checkedReached_eq (hlimits : s.limits = e.toRobotLimits) (ht : t.Agrees target) :
    checkedReached s target = some (s.reached target) := by
  rw [checkedReached, checkedTarget_eq hlimits ht]
  rfl

end Clamps

section Publishing

variable {node : ControllerNode} {e : ExactLimits} {a t : ExactCommand}

theorem checkedPublishSelection_eq (hlimits : node.smoother.limits = e.toRobotLimits)
    (ha : node.smoother.current = a.toTwist) {selection : Selection}
    (ht : t.Agrees selection.cmd.twist) (now : Time) :
    checkedPublishSelection node selection now = some (node.publishSelection selection now) := by
  obtain ⟨dt, hdt⟩ := node.smootherStep_fin now
  have hcurrent := beforeStep_current ha selection now
  have hlimits' : (node.beforeStep selection now).smoother.limits = e.toRobotLimits := by
    rw [← hlimits, ControllerNode.beforeStep]
    dsimp only
    split
    · rfl
    · rfl
  have hnothing : checkedNothingToPublish (node.beforeStep selection now) selection now =
      some ((node.beforeStep selection now).nothingToPublish selection now) := by
    rw [checkedNothingToPublish, checkedReached_eq hlimits' ht]
    rfl
  have hsmoothed : checkedPublishSmoothed (node.beforeStep selection now) selection now
      (.fin dt) = some ((node.beforeStep selection now).publishSmoothed selection now
        (.fin dt)) := by
    rw [checkedPublishSmoothed, checkedRamp_eq hlimits' (hcurrent ▸ ExactCommand.toTwist_agrees _)
      ht dt]
    rfl
  rw [checkedPublishSelection, ControllerNode.publishSelection, hdt, hnothing, hsmoothed,
    Option.bind_eq_bind, Option.bind_some]
  split
  · split
    · rfl
    · rfl
  · rfl

theorem checkedBrake_eq (h : FiniteNode node) (robotFrame : String) (deadline : Double)
    (readings : List (Time × Time)) :
    checkedBrake node robotFrame deadline readings =
      some (node.brake robotFrame deadline readings) := by
  induction readings generalizing node with
  | nil => rfl
  | cons reading readings ih =>
      obtain ⟨e, he⟩ := h.valid
      obtain ⟨a, ha⟩ := h.current
      have hlimits : node.smoother.limits = e.toRobotLimits := h.limitsEnforced.trans he
      have hzero : ExactCommand.zero.Agrees ({} : Twist) := ExactCommand.zero.toTwist_agrees
      have hramp : checkedRamp node.smoother {} kStopPeriod =
          some (node.smoother.step {} kStopPeriod) :=
        checkedRamp_eq hlimits (ha ▸ a.toTwist_agrees) hzero _
      rw [checkedBrake, checkedReached_eq hlimits hzero, hramp, ControllerNode.brake]
      simp only [Option.bind_eq_bind, Option.bind_some]
      split
      · rfl
      · exact ih (brakingStep_finite h _)

theorem stopRobot_brakes (hconnected : node.Connected)
    (hvalid : invalidRobotLimits node.getRobotLimits = "") (readings : StopReadings) :
    node.stopRobot readings =
      finishStop (node.brake readings.robotFrame (brakingDeadline node readings) readings.loop)
        readings := by
  rw [ControllerNode.stopRobot, if_neg hconnected.hasPublisher, if_pos hvalid]
  rfl

theorem checkedStopRobot_eq (h : FiniteNode node) (readings : StopReadings) :
    checkedStopRobot node readings = some (node.stopRobot readings) := by
  have hvalid : invalidRobotLimits node.getRobotLimits = "" :=
    invalidRobotLimits_eq_empty_iff.mpr h.valid
  rw [checkedStopRobot, if_pos hvalid, checkedBrake_eq h, Option.bind_eq_bind, Option.bind_some]
  split
  · rename_i hclosed
    rw [ControllerNode.stopRobot, if_pos hclosed]
  · rw [stopRobot_brakes h.connected hvalid]

end Publishing

section Monitor

theorem monitorAfter_append (calls : List MonitorCall) (next : MonitorCall) :
    monitorAfter (calls ++ [next]) = call (monitorAfter calls) next := by
  rw [monitorAfter, List.foldl_append]
  rfl

theorem monitorAfter_lastValid (calls : List MonitorCall) :
    ∀ msg, (monitorAfter calls).last = some msg → (monitorAfter calls).lastValid = true →
      SafetyChannelMonitor.invalidReason msg = "" := by
  induction calls using List.reverseRecOn with
  | nil =>
      intro msg hmsg
      cases hmsg
  | append_singleton calls next ih =>
      rw [monitorAfter_append]
      cases next with
      | configure timeout =>
          intro msg hmsg
          cases hmsg
      | received received steady =>
          intro msg hmsg hvalid
          obtain rfl : received = msg := Option.some.inj hmsg
          exact of_decide_eq_true hvalid

theorem imposedAfter_isSpeedLimit (calls : List MonitorCall) (steady : Time) :
    IsSpeedLimit (imposedAfter calls steady).maxLinearVel ∧
      IsSpeedLimit (imposedAfter calls steady).maxAngularVel := by
  rw [imposedAfter, SafetyChannelMonitor.evaluate]
  split
  · rename_i msg hcondition hlast
    have hvalid : (monitorAfter calls).lastValid = true := by
      rw [SafetyChannelMonitor.condition] at hcondition
      by_contra hinvalid
      simp [hlast, Bool.eq_false_iff.mpr hinvalid] at hcondition
    have hreason := monitorAfter_lastValid calls msg hlast hvalid
    dsimp only
    rw [SafetyChannelMonitor.imposed]
    split
    · rename_i hlimited
      exact SafetyChannelMonitor.isSpeedLimit_of_valid hreason hlimited
    · exact ⟨Or.inl rfl, Or.inl rfl⟩
  · exact ⟨Or.inl rfl, Or.inl rfl⟩

theorem limitedBy_imposedAfter_valid {limits : RobotLimits} (h : invalidRobotLimits limits = "")
    (calls : List MonitorCall) (steady : Time) :
    invalidRobotLimits (limitedBy limits (imposedAfter calls steady)) = "" := by
  obtain ⟨e, rfl⟩ := invalidRobotLimits_eq_empty_iff.mp h
  obtain ⟨hlinear, hangular⟩ := imposedAfter_isSpeedLimit calls steady
  exact invalidRobotLimits_eq_empty_iff.mpr (limitedBy_valid e hlinear hangular)

end Monitor

/-- The safety status on the blackboard, if there is one, is what the safety channel imposes. -/
def Imposed (node : ControllerNode) : Event → Prop
  | .cycle c => ∀ state, (beforePublish node c).2.safetyStatus = some state →
      ∃ calls steady, state = imposedAfter calls steady
  | .stop _ => True

/-- The configured limits are valid, and what is applied to them does not change that. -/
structure SafeNode (node : ControllerNode) : Prop where
  finite : FiniteNode node
  configured : invalidRobotLimits node.robotLimits = ""
  linear : IsSpeedLimit node.safetyChannel.maxLinearVel
  angular : IsSpeedLimit node.safetyChannel.maxAngularVel

section Nodes

variable {node : ControllerNode}

theorem safeNode_start (h : Start node) : SafeNode node := by
  have hfinite := start_finite h
  obtain ⟨unconfigured, configured, params, loading, hconfigure, rfl⟩ := h
  have hready := unconfigured.onConfigure_ready hconfigure
  have hchannel : configured.safetyChannel = {} := hready.unrestricted
  refine ⟨hfinite, ?_, ?_, ?_⟩
  · have hvalid := hready.valid
    rw [ControllerNode.getRobotLimits, hchannel, limitedBy_of_unrestricted _ ⟨rfl, rfl⟩] at hvalid
    exact hvalid
  · change IsSpeedLimit configured.safetyChannel.maxLinearVel
    rw [hchannel]
    exact Or.inl rfl
  · change IsSpeedLimit configured.safetyChannel.maxAngularVel
    rw [hchannel]
    exact Or.inl rfl

/-- What a cycle publishes with has the same configured limits, cut down by what the safety
channel imposes. -/
theorem supervised_limits (h : SafeNode node) {c : RtCycle} (himposed : Imposed node (.cycle c)) :
    invalidRobotLimits (supervised node c).robotLimits = "" ∧
      IsSpeedLimit (supervised node c).safetyChannel.maxLinearVel ∧
      IsSpeedLimit (supervised node c).safetyChannel.maxAngularVel := by
  have hran := node.cycleRt_sameLimits c.nav c.plugin
  have hlimits := ((beforePublish node c).1.followSafetyStatus_robotLimits
    (beforePublish node c).2).1.trans hran.robotLimits
  have hsafe := ControllerNode.superviseCommand_sameLimits
    ((beforePublish node c).1.followSafetyStatus (beforePublish node c).2)
    (beforePublish node c).2 c.now
  have hchannel : (supervised node c).safetyChannel = node.safetyChannel ∨
      (beforePublish node c).2.safetyStatus = some (supervised node c).safetyChannel := by
    cases hstatus : (beforePublish node c).2.safetyStatus with
    | none =>
        left
        refine hsafe.safetyChannel.trans (Eq.trans ?_ hran.safetyChannel)
        rw [ControllerNode.followSafetyStatus, hstatus]
        rfl
    | some state =>
        right
        refine congrArg some (Eq.symm (hsafe.safetyChannel.trans ?_))
        exact ControllerNode.followSafetyStatus_safetyChannel _ hstatus
  refine ⟨?_, ?_⟩
  · rw [show (supervised node c).robotLimits = node.robotLimits from
      hsafe.robotLimits.trans hlimits]
    exact h.configured
  · rcases hchannel with hchannel | hchannel
    · rw [hchannel]
      exact ⟨h.linear, h.angular⟩
    · obtain ⟨calls, steady, himposed⟩ := himposed _ hchannel
      rw [himposed]
      exact imposedAfter_isSpeedLimit calls steady

theorem enforcedLimits_valid (h : SafeNode node) {c : RtCycle}
    (himposed : Imposed node (.cycle c)) :
    ∃ e : ExactLimits, enforcedLimits node c = e.toRobotLimits := by
  obtain ⟨hconfigured, hlinear, hangular⟩ := supervised_limits h himposed
  obtain ⟨e, he⟩ := invalidRobotLimits_eq_empty_iff.mp hconfigured
  rw [← supervised_getRobotLimits, ControllerNode.getRobotLimits, he]
  exact limitedBy_valid e hlinear hangular

theorem safeNode_step (h : SafeNode node) {event : Event} (himposed : Imposed node event) :
    SafeNode (step node event) := by
  cases event with
  | cycle c =>
      have hvalid := invalidRobotLimits_eq_empty_iff.mpr (enforcedLimits_valid h himposed)
      obtain ⟨hconfigured, hlinear, hangular⟩ := supervised_limits h himposed
      have hsame : ControllerNode.SameLimits (step node (.cycle c)) (supervised node c) :=
        ControllerNode.publishSelection_sameLimits _ _ _
      refine ⟨cycle_finite h.finite hvalid, ?_, ?_, ?_⟩
      · rw [hsame.robotLimits]
        exact hconfigured
      · rw [hsame.safetyChannel]
        exact hlinear
      · rw [hsame.safetyChannel]
        exact hangular
  | stop readings =>
      have hsame : ControllerNode.SameLimits (step node (.stop readings)) node :=
        node.stopRobot_sameLimits readings
      refine ⟨stop_finite h.finite readings, ?_, ?_, ?_⟩
      · rw [hsame.robotLimits]
        exact h.configured
      · rw [hsame.safetyChannel]
        exact h.linear
      · rw [hsame.safetyChannel]
        exact h.angular

theorem checkedStep_eq (h : SafeNode node) {event : Event} (himposed : Imposed node event) :
    checkedStep node event = some (step node event) := by
  cases event with
  | cycle c =>
      obtain ⟨e, he⟩ := enforcedLimits_valid h himposed
      obtain ⟨a, ha⟩ := h.finite.current
      obtain ⟨t, ht⟩ := ExactCommand.agrees_of_isFinite (target_isFinite h.finite.target c)
      have hlimits : (supervised node c).smoother.limits = e.toRobotLimits := by
        rw [← he, ← supervised_getRobotLimits]
        exact supervised_limitsEnforced h.finite.limitsEnforced c
      have hcurrent := (supervised_sameMotion node c).current.trans ha
      rw [step_cycle]
      exact checkedPublishSelection_eq hlimits hcurrent ht c.now
  | stop readings => exact checkedStopRobot_eq h.finite readings

theorem run_safe {past : List (ControllerNode × Event)} (hrun : Run step Start node past)
    (himposed : ∀ p ∈ past, Imposed p.1 p.2) : SafeNode node :=
  hrun.invariant Imposed (fun _ h => safeNode_start h) (fun _ _ h hevent => safeNode_step h hevent)
    himposed

end Nodes

/-- Valid limits that the safety channel cuts down are valid, whatever it received. So on
finite commands each `std::clamp` of the smoother has its bounds in order, as it has in every
cycle and stop of the controller node, and a stop brakes. -/
theorem restricted_limits_valid :
    (∀ limits calls steady, invalidRobotLimits limits = "" →
      invalidRobotLimits (limitedBy limits (imposedAfter calls steady)) = "" ∧
        ∀ (s : VelocitySmoother) (a t : ExactCommand) (target : Twist) (dt : ℚ),
          s.limits = limitedBy limits (imposedAfter calls steady) → a.Agrees s.current →
            t.Agrees target →
              checkedRamp s target (.fin dt) = some (s.step target (.fin dt)) ∧
                checkedReached s target = some (s.reached target)) ∧
      ∀ (node : ControllerNode) (past : List (ControllerNode × Event)),
        Run step Start node past → (∀ p ∈ past, Imposed p.1 p.2) →
          (∀ event, Imposed node event → checkedStep node event = some (step node event)) ∧
            ∀ readings, node.stopRobot readings =
              finishStop
                (node.brake readings.robotFrame (brakingDeadline node readings) readings.loop)
                readings := by
  refine ⟨fun limits calls steady hvalid => ?_, fun node past hrun himposed => ?_⟩
  · have hrestricted := limitedBy_imposedAfter_valid hvalid calls steady
    refine ⟨hrestricted, fun s a t target dt hlimits ha ht => ?_⟩
    obtain ⟨e, he⟩ := invalidRobotLimits_eq_empty_iff.mp hrestricted
    have hexact := hlimits.trans he
    exact ⟨checkedRamp_eq hexact ha ht dt, checkedReached_eq hexact ht⟩
  · have h := run_safe hrun himposed
    have hvalid := invalidRobotLimits_eq_empty_iff.mpr h.finite.valid
    exact ⟨fun event hevent => checkedStep_eq h hevent,
      fun readings => stopRobot_brakes h.finite.connected hvalid readings⟩

def slowThenPoisoned : List MonitorCall :=
  [.configure (.fin (1 / 2)),
    .received { speedLimited := true, maxLinearVel := .fin (1 / 10), maxAngularVel := .nan } 0,
    .received { speedLimited := true, maxLinearVel := .fin (1 / 10), maxAngularVel := .fin 1 }
      100000000]

/-- A cycle with this safety status, in which a recovery system drives the robot forward. -/
def restrictedCycle (state : SafetyChannelState) (now : Time) : RtCycle where
  nav := { safetyStatus := some state }
  plugin := fun nav => ⟨false, nav⟩
  recovery := fun nav => propose nav .takeover { twist := { linear := { x := .fin (3 / 10) } } }
  now := now

def slowCycle (now : Time) : RtCycle :=
  restrictedCycle (imposedAfter slowThenPoisoned 200000000) now

theorem restricted_limits_valid_slow :
    let node := step (step exampleNode (.cycle (slowCycle 0))) (.cycle (slowCycle 100000000))
    (imposedAfter (slowThenPoisoned.take 2) 0).statusLost = true ∧
      node.getRobotLimits.maxLinearVel = .fin (1 / 10) ∧
      invalidRobotLimits (limitedBy {} (imposedAfter slowThenPoisoned 200000000)) = "" ∧
      checkedStep node (.cycle (slowCycle 200000000)) =
        some (step node (.cycle (slowCycle 200000000))) ∧
      node.stopRobot ⟨300000000, [(300000000, 300000000)], 320000000, "base_footprint"⟩ =
        finishStop (node.brake "base_footprint"
          (brakingDeadline node ⟨300000000, [(300000000, 300000000)], 320000000,
            "base_footprint"⟩) [(300000000, 300000000)])
          ⟨300000000, [(300000000, 300000000)], 320000000, "base_footprint"⟩ := by
  obtain ⟨hlimits, hruns⟩ := restricted_limits_valid
  have himposed : ∀ node now, Imposed node (.cycle (slowCycle now)) := by
    intro node now state hstate
    refine ⟨slowThenPoisoned, 200000000, Option.some.inj (hstate.symm.trans ?_)⟩
    exact ControllerNode.cycleRt_field node NavState.safetyStatus (fun _ _ _ => rfl)
      (show ∀ nav, ((slowCycle now).plugin nav).nav.safetyStatus = nav.safetyStatus from
        fun _ => rfl) (slowCycle now).nav
  have hstart : Run step Start exampleNode [] := .init exampleNode_configured
  have hrun := (hstart.next (.cycle (slowCycle 0))).next (.cycle (slowCycle 100000000))
  have hall : ∀ p ∈ [(step exampleNode (.cycle (slowCycle 0)), Event.cycle (slowCycle 100000000)),
      (exampleNode, .cycle (slowCycle 0))], Imposed p.1 p.2 := by
    simp only [List.forall_mem_cons]
    exact ⟨himposed _ _, himposed _ _, by simp⟩
  obtain ⟨hstep, hstop⟩ := hruns _ _ hrun hall
  exact ⟨by decide +kernel, by decide +kernel,
    (hlimits {} slowThenPoisoned 200000000 (by decide +kernel)).1, hstep _ (himposed _ _),
    hstop _⟩

end EasyNav.SafeLimits
