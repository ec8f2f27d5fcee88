import EasyNav.CommandFreshness

/-!
What the real-time cycle makes of plugins that throw. A throw keeps what the plugin wrote
to the blackboard before it.
-/

namespace EasyNav.PluginContainment

open EasyNav.ExtendedArithmetic
open EasyNav.ExtendedArithmetic.Extended
open EasyNav.DoubleArithmetic
open EasyNav.NavigationState
open EasyNav.VelocitySelection
open EasyNav.CommandSupervision
open EasyNav.CommandPublication
open EasyNav.SafetySupervision
open EasyNav.ProtectiveStop
open EasyNav.Lifecycle
open EasyNav.SystemLifecycle
open EasyNav.CommandFreshness (Choices)
open EasyNav.Runs

inductive Thrown where
  | stdException (what : String)
  | other
  deriving DecidableEq

/-- The state something leaves, and what it returns unless it throws. -/
abbrev Attempt (σ α : Type) := σ × Except Thrown α

namespace Attempt

variable {σ α β : Type}

/-- An exception skips what follows. -/
def andThen (attempt : Attempt σ α) (next : σ → α → Attempt σ β) : Attempt σ β :=
  match attempt with
  | (s, .ok a) => next s a
  | (s, .error thrown) => (s, .error thrown)

def catchStd (attempt : Attempt σ α) (handler : σ → Attempt σ α) : Attempt σ α :=
  match attempt with
  | (s, .error (.stdException _)) => handler s
  | attempt => attempt

/-- `catch (const std::exception &)` and `catch (...)` -/
def catchAll (attempt : Attempt σ α) (handler : σ → Attempt σ α) : Attempt σ α :=
  match attempt with
  | (s, .error _) => handler s
  | attempt => attempt

def Throws (attempt : Attempt σ α) : Prop := ∃ thrown, attempt.2 = .error thrown

theorem andThen_of_ok {s : σ} {a : α} {next : σ → α → Attempt σ β} :
    andThen (s, .ok a) next = next s a := rfl

theorem andThen_of_error {attempt : Attempt σ α} {thrown : Thrown} {next : σ → α → Attempt σ β}
    (h : attempt.2 = .error thrown) : attempt.andThen next = (attempt.1, .error thrown) := by
  rcases attempt with ⟨s, result⟩
  dsimp only at h
  rw [h]
  rfl

theorem andThen_ok {attempt : Attempt σ α} {next : σ → α → Attempt σ β} {b : β}
    (h : (attempt.andThen next).2 = .ok b) :
    ∃ s a, attempt = (s, .ok a) ∧ (next s a).2 = .ok b := by
  rcases attempt with ⟨s, result⟩
  cases result with
  | error thrown => cases h
  | ok a => exact ⟨s, a, rfl, h⟩

theorem andThen_keeps (P : σ → Prop) {attempt : Attempt σ α} {next : σ → α → Attempt σ β}
    (hattempt : P attempt.1) (hnext : ∀ s a, P s → P (next s a).1) :
    P (attempt.andThen next).1 := by
  rcases attempt with ⟨s, result⟩
  cases result with
  | error thrown => exact hattempt
  | ok a => exact hnext s a hattempt

theorem catchAll_returns (attempt : Attempt σ α) (handler : σ → Attempt σ α)
    (hhandler : ∀ s, ∃ s' a, handler s = (s', .ok a)) :
    ∃ s a, attempt.catchAll handler = (s, .ok a) := by
  rcases attempt with ⟨s, result⟩
  cases result with
  | error thrown => exact hhandler s
  | ok a => exact ⟨s, a, rfl⟩

end Attempt

/-- One cycle of the localizer plugin; `firstRun` is the first of this instance. -/
structure LocalizerCycle where
  reportRate : NavState → NavState := id
  timeToRun : Bool := true
  firstRun : Bool := false
  onLastKnownPose : Odometry → Except Thrown Unit := fun _ => .ok ()
  updateRt : NavState → Attempt NavState Unit := fun nav => (nav, .ok ())

namespace LocalizerCycle

/-- The pose is one that can be started from. -/
def isReusable (mapFrame : String) (odom : Odometry) : Bool :=
  odom.pose.isFinite &&
    (!beqIeee odom.pose.orientation.x 0 || !beqIeee odom.pose.orientation.y 0 ||
      !beqIeee odom.pose.orientation.z 0 || !beqIeee odom.pose.orientation.w 0) &&
    decide (odom.header.frameId = mapFrame)

def checkLastKnownPose (cycle : LocalizerCycle) (mapFrame : String) (nav : NavState) :
    Attempt NavState Unit :=
  match nav.robotPose with
  | none => (nav, .ok ())
  | some odom =>
      if cycle.firstRun && isReusable mapFrame odom then
        Attempt.catchAll (nav, cycle.onLastKnownPose odom) fun nav => (nav, .ok ())
      else (nav, .ok ())

def internalUpdateRt (cycle : LocalizerCycle) (mapFrame : String) (trigger : Bool)
    (nav : NavState) : Attempt NavState Bool :=
  let nav := cycle.reportRate nav
  if cycle.timeToRun || trigger then
    (cycle.checkLastKnownPose mapFrame nav).andThen fun nav _ =>
      ((cycle.updateRt nav).catchAll fun nav => (nav, .ok ())).andThen fun nav _ =>
        (nav, .ok true)
  else (nav, .ok false)

end LocalizerCycle

/-- One cycle of the controller plugin. `stopStamp` is the clock reading of its fail-safe. -/
structure ControllerCycle where
  reportRate : NavState → NavState := id
  timeToRun : Bool := true
  stopStamp : Time := 0
  updateRt : NavState → Attempt NavState Unit := fun nav => (nav, .ok ())

namespace ControllerCycle

/-- Runs the plugin; whether it failed. -/
def failed (cycle : ControllerCycle) (nav : NavState) : Attempt NavState Bool :=
  ((cycle.updateRt nav).andThen fun nav _ => (nav, .ok false)).catchAll fun nav => (nav, .ok true)

def internalUpdateRt (cycle : ControllerCycle) (robotFrame : String) (trigger : Bool)
    (nav : NavState) : Attempt NavState Bool :=
  let nav := cycle.reportRate nav
  if cycle.timeToRun || trigger then
    (cycle.failed nav).andThen fun nav failed =>
      if failed then
        -- No valid command: stop the robot rather than resend the last one.
        ({ nav with
          cmdVel := some { header := { stamp := cycle.stopStamp, frameId := robotFrame } } },
          .ok true)
      else (nav, .ok true)
  else (nav, .ok false)

end ControllerCycle

/-- One cycle of the recovery manager. `stopStamp` is the clock reading of its fail-safe. -/
structure RecoveryCycle where
  stopStamp : Time := 0
  updateRt : NavState → Attempt NavState Bool := fun nav => (nav, .ok false)

namespace RecoveryCycle

def stop (cycle : RecoveryCycle) (robotFrame : String) : TwistStamped where
  header := { stamp := cycle.stopStamp, frameId := robotFrame }

def internalUpdateRt (cycle : RecoveryCycle) (robotFrame : String) (nav : NavState) :
    Attempt NavState Bool :=
  (cycle.updateRt nav).catchStd fun nav =>
    (propose nav .override (cycle.stop robotFrame), .ok true)

end RecoveryCycle

/-- What one real-time cycle meets. The controller plugin runs if one is loaded; the debug
log prints all values, if its level is on. -/
structure Cycle where
  steady : Time
  now : Time
  publishTime : Time
  mapFrame : String := "map"
  robotFrame : String := "base_footprint"
  debugLog : NavState → Except Thrown Unit := fun _ => .ok ()
  sensors : NavState → Attempt NavState Bool := fun nav => (nav, .ok false)
  localizer : Option LocalizerCycle := none
  controller : ControllerCycle := {}
  recovery : Option RecoveryCycle := none

namespace Cycle

variable (c : Cycle)

def localizerCycleRt (trigger : Bool) (nav : NavState) : Attempt NavState Bool :=
  match c.localizer with
  | none => (nav, .ok false)
  | some localizer => localizer.internalUpdateRt c.mapFrame trigger nav

def controllerCycleRt (sys : RtSystem) (trigger : Bool) : Attempt RtSystem Bool :=
  match sys.controller.controller with
  | none => (sys, .ok false)
  | some _ =>
      match c.controller.internalUpdateRt c.robotFrame trigger sys.nav with
      | (nav, .error thrown) => ({ sys with nav := nav }, .error thrown)
      | (nav, .ok ran) =>
          let (ran, controller, nav) := sys.controller.cycleRt sys.nav fun _ => ⟨ran, nav⟩
          ({ sys with controller := controller, nav := nav }, .ok ran)

def recoveryCycleRt (nav : NavState) : Attempt NavState Bool :=
  match c.recovery with
  | none => (nav, .ok false)
  | some recovery => recovery.internalUpdateRt c.robotFrame nav

end Cycle

def onNav {α : Type} (sys : RtSystem) (run : NavState → Attempt NavState α) :
    Attempt RtSystem α :=
  ({ sys with nav := (run sys.nav).1 }, (run sys.nav).2)

/-- `SafetySupervisor::cycle_rt`, which ends at a pose whose age cannot be told. -/
def supervise (sys : RtSystem) (c : Cycle) : Attempt RtSystem Bool :=
  let (supervisor, nav) := sys.supervisor.beforePoseAge sys.nav c.steady c.now
  if supervisor.poseAgeThrows nav then
    ({ sys with supervisor := supervisor, nav := nav },
      .error (.stdException "cannot store a negative time point in rclcpp::Time"))
  else
    let (ok, supervisor, nav) := sys.supervisor.cycleRt sys.nav c.steady c.now
    ({ sys with supervisor := supervisor, nav := nav }, .ok ok)

def beforeRecovery (sys : RtSystem) (c : Cycle) : Attempt RtSystem Unit :=
  (supervise sys c).andThen fun sys _ =>
    Attempt.andThen (sys, c.debugLog sys.nav) fun sys _ =>
      (onNav sys c.sensors).andThen fun sys perceived =>
        (onNav sys (c.localizerCycleRt perceived)).andThen fun sys localized =>
          (c.controllerCycleRt sys (perceived || localized)).andThen fun sys _ =>
            (sys, .ok ())

def beforePublish (sys : RtSystem) (c : Cycle) : Attempt RtSystem Unit :=
  (beforeRecovery sys c).andThen fun sys _ =>
    (onNav sys c.recoveryCycleRt).andThen fun sys _ => (sys, .ok ())

def publish (sys : RtSystem) (c : Cycle) : RtSystem :=
  let (controller, nav) := sys.controller.publishCmdVelRt sys.nav c.publishTime
  { sys with controller := controller, nav := nav }

def systemCycleRt (sys : RtSystem) (c : Cycle) : Attempt RtSystem Unit :=
  (beforePublish sys c).andThen fun sys _ => (publish sys c, .ok ())

abbrev Node := CommandFreshness.Node

inductive Event where
  | rtCycle (c : Cycle)
  /-- `SystemNode::system_cycle`: whatever it does to the blackboard. -/
  | cycle (run : NavState → NavState)
  | status (msg : SafetyStatus) (steady : Time)
  | requestShutdown (reason : String)
  | transition (transition : Transition) (choices : Choices)
  | cleanupSubnodes (choices : Choices)

def rtCycle (data : SystemData RtSystem) (c : Cycle) : SystemData RtSystem :=
  if data.active then
    let data :=
      match supervise data.world c with
      | (sys, .ok false) => data.requestShutdown sys.supervisor.failure
      | _ => data
    { data with world := (systemCycleRt data.world c).1 }
  else data

def step (node : Node) : Event → Node
  | .rtCycle c => { node with data := rtCycle node.data c }
  | .cycle run =>
      if node.state = .active then
        { node with
          data := { node.data with
            world := { node.data.world with nav := run node.data.world.nav } } }
      else node
  | .status msg steady => CommandFreshness.step node (.status msg steady)
  | .requestShutdown reason => CommandFreshness.step node (.requestShutdown reason)
  | .transition transition choices => CommandFreshness.step node (.transition transition choices)
  | .cleanupSubnodes choices => CommandFreshness.step node (.cleanupSubnodes choices)

def Start (node : Node) : Prop := node = CommandFreshness.constructed

section Containment

variable {sys : RtSystem} {c : Cycle}

theorem localizer_returns (localizer : LocalizerCycle) (mapFrame : String) (trigger : Bool)
    (nav : NavState) : ∃ nav' ran, localizer.internalUpdateRt mapFrame trigger nav =
      (nav', .ok ran) := by
  have hcheck : ∃ nav' u, localizer.checkLastKnownPose mapFrame (localizer.reportRate nav) =
      (nav', .ok u) := by
    rw [LocalizerCycle.checkLastKnownPose]
    split
    · exact ⟨_, (), rfl⟩
    · split
      · exact Attempt.catchAll_returns _ (fun nav => (nav, .ok ())) fun nav => ⟨nav, (), rfl⟩
      · exact ⟨_, (), rfl⟩
  rw [LocalizerCycle.internalUpdateRt]
  split
  · obtain ⟨nav', u, hcheck⟩ := hcheck
    obtain ⟨nav'', u', hupdate⟩ := Attempt.catchAll_returns (localizer.updateRt nav')
      (fun nav => (nav, .ok ())) fun nav => ⟨nav, (), rfl⟩
    rw [hcheck, Attempt.andThen_of_ok, hupdate, Attempt.andThen_of_ok]
    exact ⟨nav'', true, rfl⟩
  · exact ⟨_, false, rfl⟩

theorem controller_returns (controller : ControllerCycle) (robotFrame : String) (trigger : Bool)
    (nav : NavState) : ∃ nav' ran, controller.internalUpdateRt robotFrame trigger nav =
      (nav', .ok ran) := by
  rw [ControllerCycle.internalUpdateRt]
  split
  · obtain ⟨nav', failed, hfailed⟩ :
        ∃ nav' failed, controller.failed (controller.reportRate nav) = (nav', .ok failed) :=
      Attempt.catchAll_returns _ (fun nav => (nav, .ok true)) fun nav => ⟨nav, true, rfl⟩
    rw [hfailed, Attempt.andThen_of_ok]
    split
    · exact ⟨_, true, rfl⟩
    · exact ⟨_, true, rfl⟩
  · exact ⟨_, false, rfl⟩

/-- The controller node never throws, and keeps its topics and what it published. -/
theorem controllerCycleRt_returns (sys : RtSystem) (c : Cycle) (trigger : Bool) :
    ∃ sys' ran, c.controllerCycleRt sys trigger = (sys', .ok ran) ∧
      ControllerNode.SameTopics sys'.controller sys.controller ∧
      sys'.controller.published = sys.controller.published := by
  rw [Cycle.controllerCycleRt]
  split
  · exact ⟨sys, false, rfl, .refl _, rfl⟩
  · obtain ⟨nav, ran, hreturns⟩ := controller_returns c.controller c.robotFrame trigger sys.nav
    rw [hreturns]
    dsimp only
    exact ⟨_, _, rfl, sys.controller.cycleRt_sameTopics _ _,
      (sys.controller.cycleRt_sameMotion _ _).published⟩

/-- Neither the safety channel nor the supervisor stops the robot. -/
def Unrestricted (nav : NavState) : Prop :=
  (nav.safetyStatus.getD {}).protectiveStop = false ∧ nav.inhibitMotion.getD false = false

theorem publishCmdVelRt_override {node : ControllerNode} {nav : NavState} {cmd : TwistStamped}
    (hconnected : node.Connected) (hpeek : peek nav .override = some cmd)
    (hfinite : cmd.twist.isFinite = true) (hfree : Unrestricted nav) (now : Time) :
    ∃ header, (node.publishCmdVelRt nav now).1.published =
      { header := header, twist := cmd.twist } :: node.published := by
  have hsame := CommandGuard.discardNonFinite_sameButProposals nav
  have hpending : peek (CommandGuard.discardNonFinite nav).2 .override = some cmd := by
    rw [CommandGuard.peek_discardNonFinite, hpeek, Option.filter_some, if_pos hfinite]
  have hselection : ∀ mux : VelocityMux,
      (mux.select (CommandGuard.discardNonFinite nav).2).1 =
        { cmd := cmd, choice := .override, fresh := true, smooth := false } := by
    intro mux
    rw [mux.select_selection, hpending, hsame.safetyStatus, hsame.inhibitMotion, hfree.1, hfree.2]
    rfl
  have hfollow := node.followSafetyStatus_sameTopics nav
  have hmotion := node.followSafetyStatus_sameMotion nav
  rw [ControllerNode.publishCmdVelRt]
  dsimp only
  have htarget : ((node.followSafetyStatus nav).superviseCommand nav now).1 =
      { cmd := cmd, choice := .override, fresh := true, smooth := false } := by
    rw [ControllerNode.superviseCommand]
    dsimp only
    rw [hselection, CommandGuard.supervise_of_fresh _ _ rfl]
  have htopics :=
    ((node.followSafetyStatus nav).superviseCommand_sameTopics nav now).trans hfollow
  have hpublished : ((node.followSafetyStatus nav).superviseCommand nav now).2.1.published =
      node.published := hmotion.published
  rw [htarget]
  generalize ((node.followSafetyStatus nav).superviseCommand nav now).2.1 = supervised
    at htopics hpublished ⊢
  rcases supervised.publishSelection_cases
      { cmd := cmd, choice := .override, fresh := true, smooth := false } now with
    ⟨h, -⟩ | ⟨h, -⟩ | ⟨-, h⟩
  · cases h
  · cases h
  · rw [h, ControllerNode.publishOverride, ControllerNode.publish_published]
    · rw [← hpublished]
      exact ⟨_, rfl⟩
    · exact htopics.connected hconnected

/-- The recovery manager runs in the cycle, and throws. -/
def RecoveryThrows (sys : RtSystem) (c : Cycle) : Prop :=
  (beforeRecovery sys c).2 = .ok () ∧
    ∃ recovery ∈ c.recovery, (recovery.updateRt (beforeRecovery sys c).1.nav).Throws

/-- What is promised of a cycle: it returns, it gets to the publication, and if the recovery
manager throws and nothing else stops the robot, the command is exactly zero. -/
structure Contained (sys : RtSystem) (c : Cycle) : Prop where
  returns : (systemCycleRt sys c).2 = .ok ()
  publishes : (beforePublish sys c).2 = .ok ()
  stops : RecoveryThrows sys c → Unrestricted (beforePublish sys c).1.nav →
    ∃ cmd, (systemCycleRt sys c).1.controller.published = cmd :: sys.controller.published ∧
      cmd.twist = {}

/-- The age of the pose can be told, the debug log and the sensors do not throw, and the
recovery manager throws nothing but standard exceptions. -/
structure ThrowsStd (sys : RtSystem) (c : Cycle) : Prop where
  pose : sys.supervisor.poseAgeThrows sys.nav = false
  debugLog : c.debugLog (sys.supervisor.cycleRt sys.nav c.steady c.now).2.2 = .ok ()
  sensors : ¬ (c.sensors (sys.supervisor.cycleRt sys.nav c.steady c.now).2.2).Throws
  recovery : ∀ recovery ∈ c.recovery,
    (recovery.updateRt (beforeRecovery sys c).1.nav).2 ≠ .error .other

theorem supervise_of_returns (h : sys.supervisor.poseAgeThrows sys.nav = false) :
    supervise sys c =
      (⟨(sys.supervisor.cycleRt sys.nav c.steady c.now).2.1,
        (sys.supervisor.cycleRt sys.nav c.steady c.now).2.2, sys.controller⟩,
        .ok (sys.supervisor.cycleRt sys.nav c.steady c.now).1) := by
  rw [← sys.supervisor.poseAgeThrows_beforePoseAge sys.nav c.steady c.now] at h
  rw [supervise]
  dsimp only
  rw [h]
  rfl

theorem supervise_of_throws (h : sys.supervisor.poseAgeThrows sys.nav = true) :
    (supervise sys c).Throws := by
  rw [← sys.supervisor.poseAgeThrows_beforePoseAge sys.nav c.steady c.now] at h
  rw [supervise]
  dsimp only
  rw [h]
  exact ⟨_, rfl⟩

theorem supervise_controller (sys : RtSystem) (c : Cycle) :
    (supervise sys c).1.controller = sys.controller := by
  rw [supervise]
  dsimp only
  split
  · rfl
  · rfl

theorem beforeRecovery_returns (hpose : sys.supervisor.poseAgeThrows sys.nav = false)
    (hlog : c.debugLog (sys.supervisor.cycleRt sys.nav c.steady c.now).2.2 = .ok ())
    (h : ¬ (c.sensors (sys.supervisor.cycleRt sys.nav c.steady c.now).2.2).Throws) :
    ∃ sys', beforeRecovery sys c = (sys', .ok ()) ∧
      ControllerNode.SameTopics sys'.controller sys.controller ∧
      sys'.controller.published = sys.controller.published := by
  rw [beforeRecovery, supervise_of_returns hpose, Attempt.andThen_of_ok]
  dsimp only
  rw [hlog, Attempt.andThen_of_ok, onNav]
  dsimp only
  rcases hsensors : c.sensors (sys.supervisor.cycleRt sys.nav c.steady c.now).2.2 with
    ⟨nav, perceived⟩
  rw [hsensors] at h
  cases perceived with
  | error thrown => exact absurd ⟨thrown, rfl⟩ h
  | ok perceived =>
      rw [Attempt.andThen_of_ok]
      obtain ⟨nav', localized, hlocalizer⟩ :
          ∃ nav' localized, c.localizerCycleRt perceived nav = (nav', .ok localized) := by
        rw [Cycle.localizerCycleRt]
        split
        · exact ⟨nav, false, rfl⟩
        · exact localizer_returns _ _ _ _
      rw [onNav]
      dsimp only
      rw [hlocalizer, Attempt.andThen_of_ok]
      obtain ⟨sys', ran, hcontroller, htopics, hpublished⟩ :=
        controllerCycleRt_returns
          ⟨(sys.supervisor.cycleRt sys.nav c.steady c.now).2.1, nav', sys.controller⟩ c
          (perceived || localized)
      dsimp only
      rw [hcontroller, Attempt.andThen_of_ok]
      exact ⟨sys', rfl, htopics, hpublished⟩

theorem of_beforeRecovery (h : (beforeRecovery sys c).2 = .ok ()) :
    sys.supervisor.poseAgeThrows sys.nav = false ∧
      c.debugLog (sys.supervisor.cycleRt sys.nav c.steady c.now).2.2 = .ok () ∧
      ¬ (c.sensors (sys.supervisor.cycleRt sys.nav c.steady c.now).2.2).Throws := by
  obtain ⟨supervised, ok, hsupervise, h⟩ := Attempt.andThen_ok h
  have hpose : sys.supervisor.poseAgeThrows sys.nav = false := by
    rw [← Bool.not_eq_true]
    intro hthrows
    obtain ⟨thrown, hthrown⟩ := supervise_of_throws (c := c) hthrows
    rw [hsupervise] at hthrown
    cases hthrown
  rw [supervise_of_returns hpose] at hsupervise
  obtain rfl := (Prod.ext_iff.mp hsupervise).1
  obtain ⟨logged, u, hlog, h⟩ := Attempt.andThen_ok h
  obtain ⟨rfl, hlog⟩ := Prod.ext_iff.mp hlog
  obtain ⟨sys', perceived, hsensors, -⟩ := Attempt.andThen_ok h
  refine ⟨hpose, hlog, ?_⟩
  rintro ⟨thrown, hthrown⟩
  have hok : (c.sensors (sys.supervisor.cycleRt sys.nav c.steady c.now).2.2).2 = .ok perceived :=
    congrArg Prod.snd hsensors
  rw [hthrown] at hok
  cases hok

theorem recovery_throws_iff (recovery : RecoveryCycle) (robotFrame : String) (nav : NavState) :
    (recovery.internalUpdateRt robotFrame nav).Throws ↔
      (recovery.updateRt nav).2 = .error .other := by
  rw [RecoveryCycle.internalUpdateRt]
  rcases recovery.updateRt nav with ⟨nav', result⟩
  cases result with
  | ok ran =>
      constructor
      · rintro ⟨thrown, hthrown⟩
        cases hthrown
      · intro hthrown
        cases hthrown
  | error thrown =>
      cases thrown with
      | other => exact ⟨fun _ => rfl, fun _ => ⟨.other, rfl⟩⟩
      | stdException what =>
          constructor
          · rintro ⟨thrown, hthrown⟩
            cases hthrown
          · intro hthrown
            cases hthrown

/-- The fail-safe: a stop that overrides every other command. -/
theorem recovery_stops {recovery : RecoveryCycle} {nav : NavState} (robotFrame : String)
    (hthrows : (recovery.updateRt nav).Throws)
    (hstd : (recovery.updateRt nav).2 ≠ .error .other) :
    ∃ nav', recovery.internalUpdateRt robotFrame nav =
      (propose nav' .override (recovery.stop robotFrame), .ok true) := by
  rw [RecoveryCycle.internalUpdateRt]
  rcases hupdate : recovery.updateRt nav with ⟨nav', result⟩
  rw [hupdate] at hthrows hstd
  obtain ⟨thrown, hthrown⟩ := hthrows
  dsimp only at hthrown
  rw [hthrown] at hstd ⊢
  cases thrown with
  | other => exact absurd rfl hstd
  | stdException what => exact ⟨nav', rfl⟩

/-- The recovery system lets the cycle go on unless something else is thrown. -/
theorem recoveryCycleRt_throws_iff (nav : NavState) :
    (c.recoveryCycleRt nav).Throws ↔
      ∃ recovery ∈ c.recovery, (recovery.updateRt nav).2 = .error .other := by
  rw [Cycle.recoveryCycleRt]
  split
  · rename_i hnone
    constructor
    · rintro ⟨thrown, hthrown⟩
      cases hthrown
    · rintro ⟨recovery, hmem, -⟩
      rw [hnone] at hmem
      cases hmem
  · rename_i recovery hsome
    rw [recovery_throws_iff]
    constructor
    · exact fun hthrown => ⟨recovery, hsome, hthrown⟩
    · rintro ⟨other, hmem, hthrown⟩
      rw [hsome] at hmem
      obtain rfl := Option.some.inj hmem
      exact hthrown

theorem not_throws_iff {σ α : Type} {attempt : Attempt σ α} :
    ¬ attempt.Throws ↔ ∃ a, attempt.2 = .ok a := by
  rcases attempt with ⟨s, result⟩
  cases result with
  | ok a => exact ⟨fun _ => ⟨a, rfl⟩, by rintro - ⟨thrown, hthrown⟩; cases hthrown⟩
  | error thrown => exact ⟨fun h => absurd ⟨thrown, rfl⟩ h, by rintro ⟨a, ha⟩; cases ha⟩

theorem publishes_iff : (beforePublish sys c).2 = .ok () ↔ ThrowsStd sys c := by
  constructor
  · intro h
    obtain ⟨sys', u, hbefore, hrecovery⟩ := Attempt.andThen_ok h
    have hreached : (beforeRecovery sys c).2 = .ok () := by rw [hbefore]
    obtain ⟨hpose, hlog, hsensors⟩ := of_beforeRecovery hreached
    refine ⟨hpose, hlog, hsensors, ?_⟩
    intro recovery hmem hthrown
    obtain ⟨sys'', ran, hran, -⟩ := Attempt.andThen_ok hrecovery
    have hok : (c.recoveryCycleRt sys'.nav).2 = .ok ran := congrArg Prod.snd hran
    rw [hbefore] at hthrown
    exact not_throws_iff.mpr ⟨ran, hok⟩
      ((recoveryCycleRt_throws_iff sys'.nav).mpr ⟨recovery, hmem, hthrown⟩)
  · rintro ⟨hpose, hlog, hsensors, hrecovery⟩
    obtain ⟨sys', hbefore, -, -⟩ := beforeRecovery_returns hpose hlog hsensors
    rw [hbefore] at hrecovery
    have hreturns : ¬ (c.recoveryCycleRt sys'.nav).Throws := by
      rw [recoveryCycleRt_throws_iff]
      rintro ⟨recovery, hmem, hthrown⟩
      exact hrecovery recovery hmem hthrown
    obtain ⟨ran, hran⟩ := not_throws_iff.mp hreturns
    rw [beforePublish, hbefore, Attempt.andThen_of_ok, onNav, hran]
    rfl

theorem systemCycleRt_of_publishes (h : (beforePublish sys c).2 = .ok ()) :
    systemCycleRt sys c = (publish (beforePublish sys c).1 c, .ok ()) := by
  rw [systemCycleRt]
  rcases hbefore : beforePublish sys c with ⟨final, result⟩
  rw [hbefore] at h
  dsimp only at h
  rw [h]
  rfl

/-- What is published in a cycle in which the fail-safe of the recovery manager acts. -/
theorem published_of_recoveryThrows (hconnected : sys.controller.Connected)
    (hstd : ThrowsStd sys c) (hthrows : RecoveryThrows sys c)
    (hfree : Unrestricted (beforePublish sys c).1.nav) :
    ∃ cmd, (publish (beforePublish sys c).1 c).controller.published =
      cmd :: sys.controller.published ∧ cmd.twist = {} := by
  obtain ⟨sys', hbefore, htopics, hpublished⟩ :=
    beforeRecovery_returns hstd.pose hstd.debugLog hstd.sensors
  obtain ⟨-, recovery, hloaded, hthrows⟩ := hthrows
  have hnot := hstd.recovery recovery hloaded
  rw [hbefore] at hthrows hnot
  obtain ⟨nav', hstop⟩ := recovery_stops c.robotFrame hthrows hnot
  have hreaches : beforePublish sys c =
      ({ sys' with nav := propose nav' .override (recovery.stop c.robotFrame) }, .ok ()) := by
    rw [beforePublish, hbefore, Attempt.andThen_of_ok, onNav, Cycle.recoveryCycleRt, hloaded]
    dsimp only
    rw [hstop]
    rfl
  have hpeek : peek (propose nav' .override (recovery.stop c.robotFrame)) .override =
      some (recovery.stop c.robotFrame) := by
    rw [peek_propose, if_pos rfl]
  have hfinite : ({} : Twist).isFinite = true := by decide +kernel
  rw [hreaches] at hfree
  obtain ⟨header, hzero⟩ := publishCmdVelRt_override (htopics.connected hconnected) hpeek hfinite
    hfree c.publishTime
  rw [hreaches, publish]
  dsimp only
  rw [hzero, hpublished]
  exact ⟨_, rfl, rfl⟩

theorem contained_iff (hconnected : sys.controller.Connected) :
    Contained sys c ↔ ThrowsStd sys c := by
  constructor
  · exact fun h => publishes_iff.mp h.publishes
  · intro hstd
    have hpublishes := publishes_iff.mpr hstd
    have hcycle := systemCycleRt_of_publishes hpublishes
    refine ⟨by rw [hcycle], hpublishes, ?_⟩
    rw [hcycle]
    exact published_of_recoveryThrows hconnected hstd

theorem beforeRecovery_connected (hconnected : sys.controller.Connected) :
    (beforeRecovery sys c).1.controller.Connected := by
  have hsupervised : (supervise sys c).1.controller.Connected := by
    rw [supervise_controller]
    exact hconnected
  -- the debug log, the sensors and the localizer do not touch the controller
  refine Attempt.andThen_keeps (fun sys : RtSystem => sys.controller.Connected) hsupervised ?_
  intro supervised _ hsupervised
  refine Attempt.andThen_keeps (fun sys : RtSystem => sys.controller.Connected) hsupervised ?_
  intro logged _ hlogged
  refine Attempt.andThen_keeps (fun sys : RtSystem => sys.controller.Connected) hlogged ?_
  intro sensed perceived hsensed
  refine Attempt.andThen_keeps (fun sys : RtSystem => sys.controller.Connected) hsensed ?_
  intro situated localized hsituated
  refine Attempt.andThen_keeps (fun sys : RtSystem => sys.controller.Connected) ?_ fun _ _ h => h
  obtain ⟨sys', ran, hcontroller, htopics, -⟩ :=
    controllerCycleRt_returns situated c (perceived || localized)
  rw [hcontroller]
  exact htopics.connected hsituated

theorem systemCycleRt_connected (hconnected : sys.controller.Connected) :
    (systemCycleRt sys c).1.controller.Connected := by
  have hrecovered : (beforePublish sys c).1.controller.Connected := by
    refine Attempt.andThen_keeps (fun sys : RtSystem => sys.controller.Connected)
      (beforeRecovery_connected hconnected) ?_
    intro reached _ hreached
    exact Attempt.andThen_keeps (fun sys : RtSystem => sys.controller.Connected) hreached
      fun _ _ h => h
  refine Attempt.andThen_keeps (fun sys : RtSystem => sys.controller.Connected) hrecovered ?_
  intro recovered _ hrecovered
  exact (ControllerNode.publishCmdVelRt_sameTopics _ _ _).connected hrecovered

end Containment

section Runs

/-- A controller node that is Inactive or Active can publish. -/
def CanPublish (state : PrimaryState) (controller : ControllerNode) : Prop :=
  state = .inactive ∨ state = .active → controller.Connected

structure Stopped (data : SystemData RtSystem) : Prop where
  active : data.active = false
  canPublish : CanPublish (data.subnodes .controllerNode) data.world.controller

variable {data : SystemData RtSystem}

theorem Stopped.triggerSubnode (h : Stopped data) (choices : Choices) (name : Subnode)
    (transition : Transition) :
    Stopped (data.triggerSubnode choices.callbacks name transition) := by
  by_cases hname : name = .controllerNode
  · subst hname
    refine ⟨h.active, ?_⟩
    rw [SystemData.triggerSubnode]
    dsimp only
    rw [Function.update_self]
    exact CommandFreshness.trigger_connected h.canPublish choices transition
  · refine ⟨h.active, ?_⟩
    rw [SystemData.triggerSubnode_subnodes_of_ne _ _ (Ne.symm hname), SystemData.triggerSubnode]
    dsimp only
    rw [(CommandFreshness.trigger_other data.world choices hname _ transition).1]
    exact h.canPublish

theorem Stopped.triggerAll (h : Stopped data) (choices : Choices) (transition : Transition)
    (expected : PrimaryState) (names : List Subnode) :
    Stopped (SystemData.triggerAll choices.callbacks transition expected names data).1 :=
  SystemData.triggerAll_induction _ (fun _ name h => h.triggerSubnode choices name transition) h
    expected names

theorem Stopped.cleanupSubnodes (h : Stopped data) (choices : Choices) :
    Stopped (data.cleanupSubnodes choices.callbacks) :=
  SystemData.cleanupSubnodes_induction _ (fun _ name h => h.triggerSubnode choices name .cleanup) h

theorem Stopped.onConfigure (h : Stopped data) (choices : Choices) :
    Stopped (data.onConfigure choices.callbacks choices.hooks).1 := by
  apply SystemData.onConfigure_induction _ _ _ _ h
  · intro data name transition hdata
    exact hdata.triggerSubnode choices name transition
  · intro data hdata
    exact ⟨hdata.active, hdata.canPublish⟩
  · intro data hdata
    refine ⟨hdata.active, ?_⟩
    dsimp only
    rw [(CommandFreshness.onConfigured_eq choices data.world).1]
    exact hdata.canPublish

theorem Stopped.onDeactivate
    (h : CanPublish (data.subnodes .controllerNode) data.world.controller) (choices : Choices) :
    Stopped (data.onDeactivate choices.callbacks choices.hooks.clearCmdVel).1 := by
  have hstopped : Stopped (data.stopCycles choices.hooks.clearCmdVel) := ⟨rfl, h⟩
  rw [SystemData.onDeactivate, SystemData.deactivateSubnodes_fst]
  exact hstopped.triggerAll choices .deactivate .inactive systemNodes

theorem Stopped.onError (h : Stopped data) (choices : Choices) :
    Stopped (data.onError choices.callbacks).1 := by
  rw [SystemData.onError]
  split
  · exact h
  · exact List.foldlRecOn systemNodes _ h
      fun _ h name _ => Stopped.triggerSubnode h choices name .shutdown

/-- While the real-time cycles run, the controller node is Active. -/
structure Publishing (node : Node) : Prop where
  canPublish : CanPublish (node.data.subnodes .controllerNode) node.data.world.controller
  running : node.data.active = true →
    (node.state = .active ∨ node.state = .finalized) ∧
      node.data.subnodes .controllerNode = .active

theorem Stopped.publishing (h : Stopped data) (state : PrimaryState) :
    Publishing ⟨state, data⟩ := by
  refine ⟨h.canPublish, ?_⟩
  intro hactive
  rw [h.active] at hactive
  cases hactive

theorem settle_publishing {result : SystemData RtSystem × CallbackReturn}
    (h : Stopped result.1) (choices : Choices) (transition : Transition)
    (state goal : PrimaryState) :
    Publishing (Managed.settle (SystemData.onError choices.callbacks) transition state goal
      result) := by
  obtain ⟨data, answer⟩ := result
  cases answer with
  | success => exact h.publishing goal
  | failure => exact h.publishing _
  | error =>
      have herror := Stopped.onError h choices
      rw [Managed.settle]
      split
      · rename_i heq
        rw [heq] at herror
        exact herror.publishing _
      · rename_i heq
        rw [heq] at herror
        exact herror.publishing _

theorem activate_publishing (h : Stopped data) (choices : Choices) :
    Publishing (step ⟨.inactive, data⟩ (.transition .activate choices)) := by
  have hall := h.triggerAll choices .activate .active systemNodes
  have hsubnodes : (data.onActivate choices.callbacks choices.hooks.onActivated).2 = .success →
      (data.onActivate choices.callbacks choices.hooks.onActivated).1.subnodes .controllerNode =
        .active := fun hsuccess => SystemData.onActivate_subnodes hsuccess .controllerNode
  change Publishing (Managed.settle (SystemData.onError choices.callbacks) .activate .inactive
    .active (data.onActivate choices.callbacks choices.hooks.onActivated))
  rw [SystemData.onActivate] at hsubnodes ⊢
  dsimp only at hsubnodes ⊢
  split
  · exact settle_publishing hall choices .activate _ _
  · rename_i hactivated
    rw [if_neg hactivated] at hsubnodes
    exact ⟨hall.canPublish, fun _ => ⟨Or.inl rfl, hsubnodes rfl⟩⟩

theorem rtCycle_publishing {node : Node} (h : Publishing node) (c : Cycle) :
    Publishing (step node (.rtCycle c)) := by
  rw [step, rtCycle]
  split
  · rename_i hactive
    obtain ⟨hstate, hsubnode⟩ := h.running hactive
    have hconnected := systemCycleRt_connected (c := c) (h.canPublish (Or.inr hsubnode))
    dsimp only
    split
    · exact ⟨fun _ => hconnected, fun _ => ⟨hstate, hsubnode⟩⟩
    · exact ⟨fun _ => hconnected, fun _ => ⟨hstate, hsubnode⟩⟩
  · exact h

theorem transition_publishing {node : Node} (h : Publishing node) (transition : Transition)
    (choices : Choices) : Publishing (step node (.transition transition choices)) := by
  have hsame : node.state.goal transition = none →
      Publishing (step node (.transition transition choices)) := by
    intro hinvalid
    rw [step, CommandFreshness.step_of_invalid choices hinvalid]
    exact h
  have hidle : node.state = .unconfigured ∨ node.state = .inactive → Stopped node.data := by
    intro hstate
    refine ⟨?_, h.canPublish⟩
    by_contra hactive
    rw [Bool.not_eq_false] at hactive
    rcases h.running hactive with ⟨hrunning, -⟩
    rcases hstate with heq | heq <;> rw [heq] at hrunning <;> rcases hrunning with h | h <;> cases h
  rcases node with ⟨state, data⟩
  cases state with
  | unconfigured =>
      have hstopped := hidle (Or.inl rfl)
      cases transition with
      | configure => exact settle_publishing (hstopped.onConfigure choices) choices .configure _ _
      | shutdown => exact hstopped.publishing .finalized
      | _ => exact hsame rfl
  | inactive =>
      have hstopped := hidle (Or.inr rfl)
      cases transition with
      | activate => exact activate_publishing hstopped choices
      | cleanup =>
          exact settle_publishing (hstopped.triggerAll choices .cleanup .unconfigured systemNodes)
            choices .cleanup _ _
      | shutdown => exact hstopped.publishing .finalized
      | _ => exact hsame rfl
  | active =>
      cases transition with
      | deactivate =>
          exact settle_publishing (Stopped.onDeactivate h.canPublish choices) choices
            .deactivate _ _
      | shutdown =>
          exact ⟨h.canPublish, fun hactive => ⟨Or.inr rfl, (h.running hactive).2⟩⟩
      | _ => exact hsame rfl
  | finalized => exact hsame (by cases transition <;> rfl)

theorem step_publishing {node : Node} (h : Publishing node) (e : Event) :
    Publishing (step node e) := by
  cases e with
  | rtCycle c => exact rtCycle_publishing h c
  | cycle run =>
      rw [step]
      split
      · exact ⟨h.canPublish, h.running⟩
      · exact h
  | status msg steady => exact ⟨h.canPublish, h.running⟩
  | requestShutdown reason => exact ⟨h.canPublish, h.running⟩
  | transition transition choices => exact transition_publishing h transition choices
  | cleanupSubnodes choices =>
      rw [step, CommandFreshness.step]
      split
      · rename_i hstate
        have hstopped : Stopped node.data := by
          refine ⟨?_, h.canPublish⟩
          by_contra hactive
          rw [Bool.not_eq_false] at hactive
          rcases (h.running hactive).1 with hrunning | hrunning <;> rw [hstate] at hrunning <;>
            cases hrunning
        exact (hstopped.cleanupSubnodes choices).publishing node.state
      · exact h

theorem run_publishing {node : Node} {past : List (Node × Event)}
    (hrun : Run step Start node past) : Publishing node := by
  apply hrun.invariant_of_all
  · rintro node rfl
    have hstopped : Stopped CommandFreshness.constructed.data :=
      ⟨rfl, CommandFreshness.connected_of_other (Or.inl rfl)⟩
    exact hstopped.publishing .unconfigured
  · exact fun node e h => step_publishing h e

/-- Every cycle keeps its promises if and only if the recovery manager throws nothing but
standard exceptions in it, the sensors and the debug log do not throw, and the pose that
the localizer has left has no negative stamp. -/
theorem cycle_contained_iff {node : Node} {past : List (Node × Event)}
    (hrun : Run step Start node past) (hactive : node.data.active = true) (c : Cycle) :
    Contained node.data.world c ↔ ThrowsStd node.data.world c := by
  have hpublishing := run_publishing hrun
  exact contained_iff (hpublishing.canPublish (Or.inr (hpublishing.running hactive).2))

end Runs

section Example

def exampleStart : List Event :=
  [.transition .configure CommandFreshness.exampleChoices,
    .transition .activate CommandFreshness.exampleChoices]

def exampleActive : Node := exampleStart.foldl step CommandFreshness.constructed

def exampleFaulty (thrown : Thrown) : Cycle where
  steady := 600000000
  now := 600000000
  publishTime := 600000000
  recovery := some
    { stopStamp := 600000000
      updateRt := fun nav =>
        (propose nav .override CommandFreshness.exampleForward, .error thrown) }

theorem exampleActive_run :
    Run step Start exampleActive (history step CommandFreshness.constructed exampleStart []) := by
  have hrun : Run step Start CommandFreshness.constructed [] := .init rfl
  exact hrun.foldl exampleStart

/-- The robot stops. -/
theorem cycle_contained_iff_stdException :
    Contained exampleActive.data.world (exampleFaulty (.stdException "bad_alloc")) := by
  apply (cycle_contained_iff exampleActive_run (by decide +kernel) _).mpr
  refine ⟨by decide +kernel, rfl, ?_, ?_⟩
  · rintro ⟨thrown, hthrown⟩
    cases hthrown
  · intro recovery hmem hthrown
    obtain rfl := Option.some.inj hmem
    cases hthrown

/-- An exception of another type leaves the cycle, before the command is published. -/
theorem not_contained : ¬ ∀ node past c, Run step Start node past → node.data.active = true →
    Contained node.data.world c := by
  intro h
  have hcontained := h _ _ (exampleFaulty .other) exampleActive_run (by decide +kernel)
  exact (publishes_iff.mp hcontained.publishes).recovery _ rfl rfl

end Example

end EasyNav.PluginContainment
