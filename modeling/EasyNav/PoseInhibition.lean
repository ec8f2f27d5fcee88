import EasyNav.CommandContinuity
import EasyNav.ProtectiveStop

namespace EasyNav.PoseInhibition

open EasyNav.ExtendedArithmetic
open EasyNav.ExtendedArithmetic.Extended
open EasyNav.DoubleArithmetic
open EasyNav.AxisRamp
open EasyNav.SpeedLimits
open EasyNav.NavigationState
open EasyNav.VelocityRamp
open EasyNav.VelocitySelection
open EasyNav.CommandSupervision
open EasyNav.CommandPublication
open EasyNav.CommandTimeout
open EasyNav.SafetySupervision
open EasyNav.SafetySupervision.SafetySupervisor
open EasyNav.ProtectiveStop
open EasyNav.FiniteCommands
open EasyNav.CommandContinuity
open EasyNav.Runs

/-- The pose is too old, or not finite. -/
def Unusable (maxPoseAge : Double) (pose : Odometry) (now : Time) : Bool :=
  decide (maxPoseAge < seconds (now - pose.header.stamp)) || !pose.pose.isFinite

section Supervisor

variable {supervisor : SafetySupervisor} {nav : NavState}

/-- In safety mode the check of a pose that has a stamp decides about the motion. -/
theorem checkPoseAge_inhibitMotion (hmode : supervisor.safetyMode = true)
    (hage : 0 < supervisor.maxPoseAge) {pose : Odometry} (hpose : nav.robotPose = some pose)
    (hstamp : pose.header.stamp ≠ 0) (now : Time) :
    (supervisor.checkPoseAge nav now).2.inhibitMotion =
      some (Unusable supervisor.maxPoseAge pose now) := by
  have hon : ¬ (¬ 0 < supervisor.maxPoseAge ∨ pose.header.stamp = 0) := by
    rintro (hoff | hzero)
    · exact hoff hage
    · exact hstamp hzero
  rw [checkPoseAge, hpose]
  dsimp only
  rw [if_neg hon, if_pos hmode]
  split <;> rfl

theorem cycleRt_inhibitMotion (hmode : supervisor.safetyMode = true)
    (hage : 0 < supervisor.maxPoseAge) {pose : Odometry} (hpose : nav.robotPose = some pose)
    (hstamp : pose.header.stamp ≠ 0) (steady now : Time) :
    (supervisor.cycleRt nav steady now).2.2.inhibitMotion =
      some (Unusable supervisor.maxPoseAge pose now) := by
  obtain ⟨reported, nav', hsame, hnav, heq⟩ := supervisor.cycleRt_eq nav steady now
  have hage' : reported.maxPoseAge = supervisor.maxPoseAge := hsame.maxPoseAge
  rw [heq, ← hage']
  apply checkPoseAge_inhibitMotion
  · rw [hsame.safetyMode, hmode]
  · rw [hage']
    exact hage
  · rw [hnav, hpose]
  · exact hstamp

end Supervisor

/-- Between the cycles anything may be written to the blackboard. -/
inductive Event where
  | cycle (c : SystemCycle)
  | status (msg : SafetyStatus) (steady : Time)
  | write (written : NavState → NavState)

def step (sys : RtSystem) : Event → RtSystem
  | .cycle c => systemCycleRt sys c
  | .status msg steady => { sys with supervisor := sys.supervisor.receiveStatus msg steady }
  | .write written => { sys with nav := written sys.nav }

/-- Safety mode with a configured controller; a pose may be too old. -/
structure Start (sys : RtSystem) : Prop where
  safetyMode : sys.supervisor.safetyMode = true
  maxPoseAge : 0 < sys.supervisor.maxPoseAge
  controller : FiniteCommands.Start sys.controller

def controllerCycle (sys : RtSystem) (c : SystemCycle) : RtCycle where
  nav := c.components (sys.supervisor.cycleRt sys.nav c.steady c.now).2.2
  plugin := c.plugin
  recovery := c.recovery
  now := c.publishTime

/-- Only the supervisor inhibits the motion, the limits stay valid and the safety channel
does not stop the robot. -/
structure Allowed (sys : RtSystem) (c : SystemCycle) : Prop where
  components_inhibitMotion : ∀ nav, (c.components nav).inhibitMotion = nav.inhibitMotion
  plugin_inhibitMotion : ∀ nav, (c.plugin nav).nav.inhibitMotion = nav.inhibitMotion
  recovery_inhibitMotion : ∀ nav, (c.recovery nav).inhibitMotion = nav.inhibitMotion
  valid : invalidRobotLimits (enforcedLimits sys.controller (controllerCycle sys c)) = ""
  moving : ((beforePublish sys.controller (controllerCycle sys c)).2.safetyStatus.getD
    {}).protectiveStop = false

def AllowedEvent (sys : RtSystem) : Event → Prop
  | .cycle c => Allowed sys c
  | _ => True

/-- `b` is one step of braking for `dt` seconds from `a`. -/
structure Brakes (e : ExactLimits) (dt : ℚ) (a b : ExactCommand) : Prop where
  signs : KeepsSigns a b
  x : |b.x| ≤ max 0 (|a.x| - e.maxLinearDecel * dt)
  y : |b.y| ≤ max 0 (|a.y| - e.maxLateralDecel * dt)
  z : |b.z| ≤ max 0 (|a.z| - e.maxVerticalDecel * dt)
  yaw : |b.yaw| ≤ max 0 (|a.yaw| - e.maxAngularDecel * dt)

theorem step_zero_brakes (a : ExactCommand) (e : ExactLimits) {dt : ℚ} (hdt : 0 ≤ dt) :
    Brakes e dt a (a.step e .zero dt) := by
  have hmax : max dt 0 = dt := max_eq_left hdt
  have hsigns := step_keepsSigns a .zero e dt
  simp only [ExactCommand.step, ExactCommand.clamp_zero, hmax] at hsigns ⊢
  refine ⟨hsigns, ?_, ?_, ?_, ?_⟩
  · exact (abs_ramp_zero _ e.maxLinearAcc_pos.le e.maxLinearDecel_pos.le hdt).le
  · exact (abs_ramp_zero _ e.maxLateralAcc_pos.le e.maxLateralDecel_pos.le hdt).le
  · exact (abs_ramp_zero _ e.maxVerticalAcc_pos.le e.maxVerticalDecel_pos.le hdt).le
  · refine (abs_curb_le _ _ _ e.minTurningRadius_nonneg).trans ?_
    exact (abs_ramp_zero _ e.maxAngularAcc_pos.le e.maxAngularDecel_pos.le hdt).le

section Cycle

variable {sys : RtSystem} {c : SystemCycle}

theorem systemCycleRt_controller (sys : RtSystem) (c : SystemCycle) :
    (systemCycleRt sys c).controller =
      CommandTimeout.step sys.controller (.cycle (controllerCycle sys c)) := rfl

theorem beforePublish_inhibitMotion (h : Allowed sys c) :
    (beforePublish sys.controller (controllerCycle sys c)).2.inhibitMotion =
      (sys.supervisor.cycleRt sys.nav c.steady c.now).2.2.inhibitMotion := by
  have hran := sys.controller.cycleRt_field NavState.inhibitMotion (fun _ _ _ => rfl)
    h.plugin_inhibitMotion (controllerCycle sys c).nav
  exact (h.recovery_inhibitMotion _).trans (hran.trans (h.components_inhibitMotion _))

theorem selected_of_inhibitMotion (h : Allowed sys c) {inhibited : Bool}
    (hflag : (sys.supervisor.cycleRt sys.nav c.steady c.now).2.2.inhibitMotion =
      some inhibited) :
    ∃ overrideCmd takeover controller paused,
      selected sys.controller (controllerCycle sys c) =
        sys.controller.mux.choose overrideCmd takeover controller paused false inhibited := by
  set node := sys.controller
  set cycle := controllerCycle sys c
  have hsame := CommandGuard.discardNonFinite_sameButProposals (beforePublish node cycle).2
  have hselected : selected node cycle = ((beforePublish node cycle).1.mux.select
      (CommandGuard.discardNonFinite (beforePublish node cycle).2).2).1 := rfl
  rw [hselected, VelocityMux.select_selection, hsame.safetyStatus, hsame.inhibitMotion,
    (beforePublish_sameSupervision node cycle).mux, h.moving, beforePublish_inhibitMotion h,
    hflag]
  exact ⟨_, _, _, _, rfl⟩

theorem target_of_inhibited (h : Allowed sys c)
    (hflag : (sys.supervisor.cycleRt sys.nav c.steady c.now).2.2.inhibitMotion = some true) :
    (target sys.controller (controllerCycle sys c)).choice = .inhibited ∧
      (target sys.controller (controllerCycle sys c)).smooth = true ∧
      (target sys.controller (controllerCycle sys c)).cmd.twist = {} := by
  obtain ⟨_, _, _, _, hselected⟩ := selected_of_inhibitMotion h hflag
  rw [VelocityMux.choose_of_inhibited] at hselected
  obtain ⟨hchoice, hsmooth⟩ := target_choice sys.controller (controllerCycle sys c)
  rw [hselected] at hchoice hsmooth
  refine ⟨hchoice, hsmooth, ?_⟩
  rw [(cycle_eq _ _).1, hselected]
  exact CommandGuard.supervise_twist_of_zero _ _ rfl

/-- A cycle without a usable pose publishes nothing or one step of braking. -/
theorem cycle_brakes (hfinite : FiniteNode sys.controller) (h : Allowed sys c)
    (hflag : (sys.supervisor.cycleRt sys.nav c.steady c.now).2.2.inhibitMotion = some true) :
    (systemCycleRt sys c).controller.published = sys.controller.published ∨
      ∃ (cmd : TwistStamped) (e : ExactLimits) (a b : ExactCommand),
        (systemCycleRt sys c).controller.published = cmd :: sys.controller.published ∧
          enforcedLimits sys.controller (controllerCycle sys c) = e.toRobotLimits ∧
          sys.controller.smoother.current = a.toTwist ∧ b.Agrees cmd.twist ∧
          Brakes e (stepTime sys.controller.lastSmootherStep c.publishTime) a b := by
  obtain ⟨hchoice, hsmooth', hzero⟩ := target_of_inhibited h hflag
  obtain ⟨e, he⟩ := invalidRobotLimits_eq_empty_iff.mp h.valid
  obtain ⟨a, ha⟩ := hfinite.current
  obtain ⟨t, ht, houtcome⟩ := cycle_outcome hfinite he ha
    (smootherStep_eq sys.controller (controllerCycle sys c).now)
  rw [hzero] at ht
  rw [systemCycleRt_controller]
  cases houtcome with
  | silent _ _ _ _ hpublished => exact Or.inl hpublished
  | smoothed _ _ _ hpublished =>
      rw [rampStart, if_neg (by rw [hchoice]; decide), eq_zero_of_agrees ht] at hpublished
      refine Or.inr ⟨_, e, a, _, hpublished, he, ha, ExactCommand.toTwist_agrees _, ?_⟩
      exact step_zero_brakes a e (stepTime_nonneg _ _)
  | overridden hsmooth _ _ _ =>
      rw [hsmooth'] at hsmooth
      contradiction

theorem cycle_lifted (h : Allowed sys c)
    (hflag : (sys.supervisor.cycleRt sys.nav c.steady c.now).2.2.inhibitMotion = some false) :
    (target sys.controller (controllerCycle sys c)).choice ≠ .inhibited := by
  obtain ⟨_, _, _, _, hselected⟩ := selected_of_inhibitMotion h hflag
  rw [(target_choice _ _).1, hselected, Ne, VelocityMux.choose_choice_inhibited_iff]
  simp

end Cycle

section Runs

variable {sys : RtSystem} {past : List (RtSystem × Event)}

/-- The supervisor keeps checking the pose, and the controller is finite. -/
structure Checks (sys : RtSystem) : Prop where
  safetyMode : sys.supervisor.safetyMode = true
  maxPoseAge : 0 < sys.supervisor.maxPoseAge
  finite : FiniteNode sys.controller

theorem step_checks (h : Checks sys) (e : Event) (hallowed : AllowedEvent sys e) :
    Checks (step sys e) := by
  cases e with
  | cycle c =>
      obtain ⟨hmode, hage, -⟩ := sys.supervisor.cycleRt_decides sys.nav c.steady c.now
      have hsupervisor : (systemCycleRt sys c).supervisor =
          (sys.supervisor.cycleRt sys.nav c.steady c.now).2.1 := rfl
      rw [step]
      constructor
      · rw [hsupervisor, hmode]
        exact h.safetyMode
      · rw [hsupervisor, hage]
        exact h.maxPoseAge
      · rw [systemCycleRt_controller]
        exact cycle_finite h.finite hallowed.valid
  | status msg steady =>
      have hsame := sys.supervisor.receiveStatus_sameButReports msg steady
      rw [step]
      constructor
      · exact hsame.safetyMode.trans h.safetyMode
      · dsimp only
        rw [hsame.maxPoseAge]
        exact h.maxPoseAge
      · exact h.finite
  | write written => exact ⟨h.safetyMode, h.maxPoseAge, h.finite⟩

theorem run_checks (hrun : Run step Start sys past)
    (hallowed : ∀ p ∈ past, AllowedEvent p.1 p.2) : Checks sys := by
  refine hrun.invariant AllowedEvent ?_ (fun sys e h => step_checks h e) hallowed
  exact fun sys h => ⟨h.safetyMode, h.maxPoseAge, start_finite h.controller⟩

/-- Motion without a usable pose: a cycle that starts with a pose that is too old or not
finite publishes nothing but a step of braking, whoever commands the robot; one that
starts with a usable pose is not inhibited any more. -/
theorem brakes_without_usable_pose (hrun : Run step Start sys past)
    (hallowed : ∀ p ∈ past, AllowedEvent p.1 p.2) (before : RtSystem) (c : SystemCycle)
    (earlier : List (RtSystem × Event)) (hpast : past = (before, .cycle c) :: earlier)
    (pose : Odometry) (hpose : before.nav.robotPose = some pose)
    (hstamp : pose.header.stamp ≠ 0) :
    (Unusable before.supervisor.maxPoseAge pose c.now = true →
        sys.controller.published = before.controller.published ∨
          ∃ (cmd : TwistStamped) (e : ExactLimits) (a b : ExactCommand),
            sys.controller.published = cmd :: before.controller.published ∧
              enforcedLimits before.controller (controllerCycle before c) = e.toRobotLimits ∧
              before.controller.smoother.current = a.toTwist ∧ b.Agrees cmd.twist ∧
              Brakes e (stepTime before.controller.lastSmootherStep c.publishTime) a b) ∧
      (Unusable before.supervisor.maxPoseAge pose c.now = false →
        (before.supervisor.cycleRt before.nav c.steady c.now).2.2.inhibitMotion = some false ∧
          (target before.controller (controllerCycle before c)).choice ≠ .inhibited) := by
  subst hpast
  obtain ⟨rfl, hbefore⟩ := hrun.last
  rw [List.forall_mem_cons] at hallowed
  have h := run_checks hbefore hallowed.2
  have hflag := cycleRt_inhibitMotion h.safetyMode h.maxPoseAge hpose hstamp c.steady c.now
  constructor
  · intro hunusable
    rw [hunusable] at hflag
    exact cycle_brakes h.finite hallowed.1 hflag
  · intro husable
    rw [husable] at hflag
    exact ⟨hflag, cycle_lifted hallowed.1 hflag⟩

def stampedSystem : RtSystem where
  supervisor := { safetyMode := true }
  nav := { robotPose := some { header := { stamp := 1 } } }
  controller := exampleNode

theorem drivingCycle_allowed (sys : RtSystem) (steady : Time)
    (hvalid : invalidRobotLimits (enforcedLimits sys.controller
      (controllerCycle sys (drivingCycle steady))) = "")
    (hmoving : ((beforePublish sys.controller
      (controllerCycle sys (drivingCycle steady))).2.safetyStatus.getD {}).protectiveStop =
        false) : Allowed sys (drivingCycle steady) :=
  ⟨fun _ => rfl, fun _ => rfl, fun _ => rfl, hvalid, hmoving⟩

/-- A recovery system drives the robot until the pose is more than a second old. -/
theorem brakes_without_usable_pose_override :
    let driving := step stampedSystem (.cycle (drivingCycle 980000000))
    let braking := step driving (.cycle (drivingCycle 1030000000))
    braking.controller.published.map (fun cmd => cmd.twist.linear.x) =
        [.fin (1 / 20), .fin (1 / 10)] ∧
      (target stampedSystem.controller
        (controllerCycle stampedSystem (drivingCycle 980000000))).choice ≠ .inhibited ∧
      ∃ (cmd : TwistStamped) (e : ExactLimits) (a b : ExactCommand),
        braking.controller.published = cmd :: driving.controller.published ∧
          enforcedLimits driving.controller
            (controllerCycle driving (drivingCycle 1030000000)) = e.toRobotLimits ∧
          driving.controller.smoother.current = a.toTwist ∧ b.Agrees cmd.twist ∧
          Brakes e (1 / 20) a b := by
  have hstart : Run step Start stampedSystem [] :=
    .init ⟨rfl, by decide +kernel, exampleNode_configured⟩
  have hdriving := hstart.next (.cycle (drivingCycle 980000000))
  have hbraking := hdriving.next (.cycle (drivingCycle 1030000000))
  have hfirst := drivingCycle_allowed stampedSystem 980000000 (by decide +kernel)
    (by decide +kernel)
  have hsecond := drivingCycle_allowed (step stampedSystem (.cycle (drivingCycle 980000000)))
    1030000000 (by decide +kernel) (by decide +kernel)
  have hdrivingAllowed : ∀ p ∈ [(stampedSystem, Event.cycle (drivingCycle 980000000))],
      AllowedEvent p.1 p.2 := List.forall_mem_cons.mpr ⟨hfirst, by simp⟩
  have hlifted := (brakes_without_usable_pose hdriving hdrivingAllowed _ _ _ rfl
    { header := { stamp := 1 } } rfl (by decide)).2 (by decide +kernel)
  have hbrakes := (brakes_without_usable_pose hbraking
    (List.forall_mem_cons.mpr ⟨hsecond, hdrivingAllowed⟩) _ _ _ rfl
    { header := { stamp := 1 } } (by decide +kernel) (by decide)).1 (by decide +kernel)
  have htime : stepTime (step stampedSystem
      (.cycle (drivingCycle 980000000))).controller.lastSmootherStep 1030000000 = 1 / 20 := by
    decide +kernel
  refine ⟨by decide +kernel, hlifted.2, ?_⟩
  rcases hbrakes with hsilent | ⟨cmd, e, a, b, hpublished, he, ha, hb, hbraked⟩
  · exact absurd hsilent (by decide +kernel)
  · rw [← htime]
    exact ⟨cmd, e, a, b, hpublished, he, ha, hb, hbraked⟩

end Runs

end EasyNav.PoseInhibition
