import EasyNav.Runs
import EasyNav.SafetySupervision

namespace EasyNav.ProtectiveStop

open EasyNav.ExtendedArithmetic
open EasyNav.ExtendedArithmetic.Extended
open EasyNav.DoubleArithmetic
open EasyNav.SpeedLimits
open EasyNav.NavigationState
open EasyNav.VelocityRamp
open EasyNav.VelocitySelection
open EasyNav.CommandSupervision
open EasyNav.CommandPublication
open EasyNav.SafetySupervision
open EasyNav.Lifecycle
open EasyNav.Runs

structure RtSystem where
  supervisor : SafetySupervisor
  nav : NavState
  controller : ControllerNode

/-- One real-time cycle: its clock readings, and what the components do to the
blackboard. Only the supervisor writes the safety status. -/
structure SystemCycle where
  steady : Time
  now : Time
  publishTime : Time
  components : NavState → NavState
  plugin : NavState → ControllerRun
  recovery : NavState → NavState
  components_safetyStatus : ∀ nav, (components nav).safetyStatus = nav.safetyStatus
  plugin_safetyStatus : ∀ nav, (plugin nav).nav.safetyStatus = nav.safetyStatus
  recovery_safetyStatus : ∀ nav, (recovery nav).safetyStatus = nav.safetyStatus

inductive Event where
  | status (msg : SafetyStatus) (steady : Time)
  | cycle (c : SystemCycle)

def systemCycleRt (sys : RtSystem) (c : SystemCycle) : RtSystem :=
  let (_, supervisor, nav) := sys.supervisor.cycleRt sys.nav c.steady c.now
  let nav := c.components nav
  let (_, controller, nav) := sys.controller.cycleRt nav c.plugin
  let (controller, nav) := controller.publishCmdVelRt (c.recovery nav) c.publishTime
  { supervisor := supervisor, nav := nav, controller := controller }

def step (sys : RtSystem) : Event → RtSystem
  | .status msg steady => { sys with supervisor := sys.supervisor.receiveStatus msg steady }
  | .cycle c => systemCycleRt sys c

/-- The system as it is configured and activated, with the safety status enabled
and lost after `timeout`. -/
def Start (timeout : Double) (sys : RtSystem) : Prop :=
  ∃ (supervisor : SafetySupervisor) (params : SafetyParameters) (checks : SystemChecks)
    (nodeName hash : String) (steady : Time) (nav : NavState)
    (unconfigured controller : ControllerNode) (controllerParams : ControllerParameters)
    (loading : PluginLoading),
    params.statusTimeout = timeout ∧
      (supervisor.checkSystem nodeName params checks).1.safetyStatusSub = true ∧
      unconfigured.onConfigure controllerParams loading = (controller, .success) ∧
      sys =
        { supervisor := ((supervisor.checkSystem nodeName params checks).1.onConfigured nav
            hash steady).1.onActivate
          nav := ((supervisor.checkSystem nodeName params checks).1.onConfigured nav
            hash steady).2
          controller := controller }

def lastReceived : List (RtSystem × Event) → Option (SafetyStatus × Time)
  | [] => none
  | (_, .status msg steady) :: _ => some (msg, steady)
  | (_, .cycle _) :: past => lastReceived past

/-- Nothing says at `steady` that the robot may move: no status has been received,
or the last one is invalid, or too old, or it asks for a protective stop. -/
def MustStop (timeout : Double) (past : List (RtSystem × Event)) (steady : Time) : Prop :=
  match lastReceived past with
  | none => True
  | some (msg, time) =>
      SafetyChannelMonitor.invalidReason msg ≠ "" ∨ durationCast timeout < steady - time ∨
        msg.protectiveStop = true

section Monitor

/-- The monitor knows the last status received. -/
def Knows (monitor : SafetyChannelMonitor) (last : Option (SafetyStatus × Time)) : Prop :=
  match last with
  | none => monitor.last = none
  | some (msg, time) =>
      monitor.last = some msg ∧ monitor.lastTime = time ∧
        monitor.lastValid = decide (SafetyChannelMonitor.invalidReason msg = "")

variable {monitor : SafetyChannelMonitor} {last : Option (SafetyStatus × Time)}

theorem evaluate_isSpeedLimit (hknows : Knows monitor last) (steady : Time) :
    IsSpeedLimit (monitor.evaluate steady).state.maxLinearVel ∧
      IsSpeedLimit (monitor.evaluate steady).state.maxAngularVel := by
  unfold SafetyChannelMonitor.evaluate
  split
  · rename_i msg hcondition hlast
    unfold SafetyChannelMonitor.imposed
    dsimp only
    split
    · rename_i hlimited
      refine SafetyChannelMonitor.isSpeedLimit_of_valid ?_ hlimited
      unfold SafetyChannelMonitor.condition at hcondition
      cases last with
      | none =>
          rw [Knows, hlast] at hknows
          contradiction
      | some received =>
          obtain ⟨hmsg, -, hvalid⟩ := hknows
          rw [hlast] at hmsg
          rw [Option.some.inj hmsg]
          by_contra hne
          rw [decide_eq_false hne] at hvalid
          simp [hlast, hvalid] at hcondition
    · exact ⟨Or.inl rfl, Or.inl rfl⟩
  · exact ⟨Or.inl rfl, Or.inl rfl⟩

theorem evaluate_protectiveStop {timeout : Double} {steady : Time}
    {past : List (RtSystem × Event)} (hknows : Knows monitor (lastReceived past))
    (htimeout : monitor.timeout = durationCast timeout) (h : MustStop timeout past steady) :
    (monitor.evaluate steady).state.protectiveStop = true := by
  unfold SafetyChannelMonitor.evaluate
  split
  · rename_i msg hcondition hlast
    unfold SafetyChannelMonitor.condition at hcondition
    unfold MustStop at h
    cases hreceived : lastReceived past with
    | none =>
        rw [hreceived, Knows, hlast] at hknows
        contradiction
    | some received =>
        rw [hreceived] at hknows h
        obtain ⟨hmsg, htime, hvalid⟩ := hknows
        rw [hlast] at hmsg
        have hmsg := Option.some.inj hmsg
        rcases h with hinvalid | hstale | hstop
        · rw [decide_eq_false hinvalid] at hvalid
          simp [hlast, hvalid] at hcondition
        · rw [← htimeout, ← htime] at hstale
          rw [if_neg (by simp [hlast])] at hcondition
          split at hcondition
          · contradiction
          · contradiction
        · rw [hmsg]
          unfold SafetyChannelMonitor.imposed
          dsimp only
          split <;> exact hstop
  · rfl

end Monitor

section Controller

open ControllerNode

/-- The limits are valid and enforced, and the node knows whether the last command
published was zero. -/
structure Tracks (node : ControllerNode) : Prop where
  connected : node.Connected
  limitsEnforced : node.LimitsEnforced
  robotLimits : ∃ e : ExactLimits, node.robotLimits = e.toRobotLimits
  linear : IsSpeedLimit node.safetyChannel.maxLinearVel
  angular : IsSpeedLimit node.safetyChannel.maxAngularVel
  atRest : node.lastPublishedZero = true → node.LastIsZero

variable {node : ControllerNode}

theorem ready_tracks {params : ControllerParameters} (h : node.Ready params) :
    Tracks node := by
  have hlimits := h.valid
  unfold ControllerNode.getRobotLimits at hlimits
  rw [h.unrestricted, limitedBy_of_unrestricted _ ⟨rfl, rfl⟩,
    invalidRobotLimits_eq_empty_iff] at hlimits
  exact {
    connected := h.connected
    limitsEnforced := h.limitsEnforced
    robotLimits := hlimits
    linear := by rw [h.unrestricted]; exact Or.inl rfl
    angular := by rw [h.unrestricted]; exact Or.inl rfl
    atRest := fun hzero => absurd (h.lastPublishedZero.symm.trans hzero) (by decide) }

theorem Tracks.exactLimits (h : Tracks node) :
    ∃ e : ExactLimits, node.smoother.limits = e.toRobotLimits := by
  obtain ⟨e, he⟩ := h.robotLimits
  obtain ⟨e', he'⟩ := limitedBy_valid e h.linear h.angular
  exact ⟨e', by rw [h.limitsEnforced, ControllerNode.getRobotLimits, he, he']⟩

theorem Tracks.of_same {node' : ControllerNode} (h : Tracks node)
    (htopics : SameTopics node' node) (hlimits : SameLimits node' node)
    (hatRest : node'.lastPublishedZero = true → node'.LastIsZero) : Tracks node' where
  connected := htopics.connected h.connected
  limitsEnforced := hlimits.limitsEnforced h.limitsEnforced
  robotLimits := by rw [hlimits.robotLimits]; exact h.robotLimits
  linear := by rw [hlimits.safetyChannel]; exact h.linear
  angular := by rw [hlimits.safetyChannel]; exact h.angular
  atRest := hatRest

theorem lastIsZero_of_sameMotion {node' : ControllerNode} (hmotion : SameMotion node' node)
    (h : node.LastIsZero) : node'.LastIsZero := by
  obtain ⟨cmd, earlier, heq, hzero⟩ := h
  exact ⟨cmd, earlier, hmotion.published.trans heq, hzero⟩

theorem Tracks.atRest_of_sameMotion {node' : ControllerNode} (h : Tracks node)
    (hmotion : SameMotion node' node) (hzero : node'.lastPublishedZero = true) :
    node'.LastIsZero :=
  lastIsZero_of_sameMotion hmotion (h.atRest (hmotion.lastPublishedZero.symm.trans hzero))

theorem cycleRt_tracks (h : Tracks node) (nav : NavState)
    (plugin : NavState → ControllerRun) : Tracks (node.cycleRt nav plugin).2.1 :=
  h.of_same (node.cycleRt_sameTopics nav plugin) (node.cycleRt_sameLimits nav plugin)
    (h.atRest_of_sameMotion (node.cycleRt_sameMotion nav plugin))

theorem followSafetyStatus_tracks (h : Tracks node) {nav : NavState}
    {state : SafetyChannelState} (hnav : nav.safetyStatus = some state)
    (hlinear : IsSpeedLimit state.maxLinearVel) (hangular : IsSpeedLimit state.maxAngularVel) :
    Tracks (node.followSafetyStatus nav) := by
  have hchannel := node.followSafetyStatus_safetyChannel hnav
  exact {
    connected := (node.followSafetyStatus_sameTopics nav).connected h.connected
    limitsEnforced := node.followSafetyStatus_limitsEnforced h.limitsEnforced nav
    robotLimits := by
      rw [(node.followSafetyStatus_robotLimits nav).1]
      exact h.robotLimits
    linear := by rw [hchannel]; exact hlinear
    angular := by rw [hchannel]; exact hangular
    atRest := h.atRest_of_sameMotion (node.followSafetyStatus_sameMotion nav) }

theorem publish_lastIsZero_iff (hconnected : node.Connected) (cmd : TwistStamped) :
    (node.publish cmd).LastIsZero ↔ cmd.twist = {} := by
  unfold LastIsZero
  rw [node.publish_published hconnected]
  constructor
  · rintro ⟨cmd', earlier, heq, hzero⟩
    rw [(List.cons.inj heq).1]
    exact hzero
  · exact fun hzero => ⟨cmd, node.published, rfl, hzero⟩

theorem publishSelection_tracks (h : Tracks node) (selection : Selection) (now : Time) :
    Tracks (node.publishSelection selection now) := by
  refine h.of_same (node.publishSelection_sameTopics selection now)
    (node.publishSelection_sameLimits selection now) ?_
  rcases node.publishSelection_cases selection now with ⟨-, -, heq⟩ | ⟨-, heq⟩ | ⟨-, heq⟩ <;>
    rw [heq]
  · exact h.atRest
  · exact fun hzero => (publish_lastIsZero_iff h.connected _).mpr (isZero_iff.mp hzero)
  · exact fun hzero => (publish_lastIsZero_iff h.connected _).mpr (isZero_iff.mp hzero)

/-- A stop that the safety channel selects leaves zero as the last command, and
publishes nothing else. -/
theorem publishSelection_of_safetyStop (h : Tracks node) {selection : Selection}
    (hchoice : selection.choice = .safetyStop) (hsmooth : selection.smooth = true)
    (htwist : selection.cmd.twist = {}) (hstopped : selection.fresh = false → node.LastIsZero)
    (now : Time) :
    (node.publishSelection selection now).LastIsZero ∧
      ∃ new, (node.publishSelection selection now).published = new ++ node.published ∧
        ∀ cmd ∈ new, cmd.twist = {} := by
  obtain ⟨e, he⟩ := h.exactLimits
  obtain ⟨dt, hdt⟩ := node.smootherStep_fin now
  have hsmoother : (node.beforeStep selection now).smoother = node.smoother.reset {} := by
    unfold beforeStep
    dsimp only
    rw [if_pos hchoice]
  unfold publishSelection
  dsimp only
  rw [if_pos hsmooth]
  split
  · rename_i hnothing
    refine ⟨?_, [], rfl, by simp⟩
    change node.LastIsZero
    unfold nothingToPublish at hnothing
    simp only [Bool.and_eq_true, Bool.or_eq_true, Bool.not_eq_true'] at hnothing
    rcases hnothing.1.1 with hfresh | ⟨hrest, -⟩
    · exact hstopped hfresh
    · exact h.atRest hrest
  · have hstep : ((node.beforeStep selection now).smoother.step selection.cmd.twist
        (node.smootherStep now)).current = {} := by
      rw [hsmoother, htwist, hdt]
      exact VelocitySmoother.step_zero (s := node.smoother.reset {}) he rfl dt
    have hconnected : (node.beforeStep selection now).Connected := h.connected
    refine ⟨(publish_lastIsZero_iff hconnected _).mpr hstep, [_],
      publish_published _ hconnected _, ?_⟩
    rintro cmd hcmd
    rw [List.mem_singleton.mp hcmd]
    exact hstep

theorem select_of_safetyStatus (mux : VelocityMux) {nav : NavState}
    {state : SafetyChannelState} (hnav : nav.safetyStatus = some state) :
    ((mux.select nav).1.choice = .safetyStop ↔ state.protectiveStop = true) ∧
      (state.protectiveStop = true →
        (mux.select nav).1.smooth = true ∧ (mux.select nav).1.cmd.twist = {} ∧
          ((mux.select nav).1.fresh = false → mux.lastChoice = .safetyStop)) := by
  rw [mux.select_selection, hnav]
  refine ⟨VelocityMux.choose_choice_safetyStop_iff, ?_⟩
  intro hstop
  rw [Option.getD_some, hstop, VelocityMux.choose_of_protectiveStop]
  refine ⟨rfl, rfl, ?_⟩
  intro hfresh
  simp only [Bool.or_eq_false_iff, decide_eq_false_iff_not, not_not] at hfresh
  exact hfresh.2

theorem publishCmdVelRt_of_safetyStatus (h : Tracks node)
    (hstopped : node.mux.lastChoice = .safetyStop → node.LastIsZero) {nav : NavState}
    {state : SafetyChannelState} (hnav : nav.safetyStatus = some state)
    (hlinear : IsSpeedLimit state.maxLinearVel) (hangular : IsSpeedLimit state.maxAngularVel)
    (now : Time) :
    Tracks (node.publishCmdVelRt nav now).1 ∧
      ((node.publishCmdVelRt nav now).1.mux.lastChoice = .safetyStop →
        state.protectiveStop = true) ∧
      (state.protectiveStop = true →
        (node.publishCmdVelRt nav now).1.LastIsZero ∧
          ∃ new, (node.publishCmdVelRt nav now).1.published = new ++ node.published ∧
            ∀ cmd ∈ new, cmd.twist = {}) := by
  have hfollow := followSafetyStatus_tracks h hnav hlinear hangular
  have hmotion := node.followSafetyStatus_sameMotion nav
  have hmux := (node.followSafetyStatus_sameSupervision nav).mux
  have hdiscarded : (CommandGuard.discardNonFinite nav).2.safetyStatus = some state :=
    (CommandGuard.discardNonFinite_sameButProposals nav).safetyStatus.trans hnav
  obtain ⟨hchoice, hstop⟩ :=
    select_of_safetyStatus (node.followSafetyStatus nav).mux hdiscarded
  have hsupervised : Tracks ((node.followSafetyStatus nav).superviseCommand nav now).2.1 :=
    hfollow.of_same (superviseCommand_sameTopics _ _ _) (superviseCommand_sameLimits _ _ _)
      hfollow.atRest
  unfold publishCmdVelRt
  dsimp only
  refine ⟨publishSelection_tracks hsupervised _ now, ?_, ?_⟩
  · rw [(publishSelection_sameSupervision _ _ now).mux]
    exact hchoice.mp
  · intro hprotective
    obtain ⟨hsmooth, htwist, hfresh⟩ := hstop hprotective
    obtain ⟨hchoice', hsmooth'⟩ := (node.followSafetyStatus nav).guard.supervise_choice now
      ((node.followSafetyStatus nav).mux.select (CommandGuard.discardNonFinite nav).2).1
    have hknown : ((node.followSafetyStatus nav).superviseCommand nav now).1.fresh = false →
        ((node.followSafetyStatus nav).superviseCommand nav now).2.1.LastIsZero := by
      intro hstale
      have hselected := CommandGuard.not_fresh_of_supervise hstale
      refine lastIsZero_of_sameMotion ((superviseCommand_sameMotion _ nav now).trans hmotion) ?_
      exact hstopped (hmux ▸ hfresh hselected)
    obtain ⟨hzero, hnew⟩ := publishSelection_of_safetyStop hsupervised
      (hchoice'.trans (hchoice.mpr hprotective)) (hsmooth'.trans hsmooth)
      (CommandGuard.supervise_twist_of_zero _ now htwist) hknown now
    rw [← hmotion.published]
    exact ⟨hzero, hnew⟩

end Controller

section System

open ControllerNode

/-- The monitor knows the last status received, and a node whose mux is in a
protective stop has stopped the robot. -/
structure Supervised (timeout : Double) (sys : RtSystem) (past : List (RtSystem × Event)) :
    Prop where
  safetyStatusSub : sys.supervisor.safetyStatusSub = true
  timeout_eq : sys.supervisor.safetyChannel.timeout = durationCast timeout
  knows : Knows sys.supervisor.safetyChannel (lastReceived past)
  tracks : Tracks sys.controller
  stopped : sys.controller.mux.lastChoice = .safetyStop → sys.controller.LastIsZero

variable {timeout : Double} {sys : RtSystem} {past : List (RtSystem × Event)}

theorem start_supervised (h : Start timeout sys) : Supervised timeout sys [] := by
  obtain ⟨supervisor, params, checks, nodeName, hash, steady, nav, unconfigured, controller,
    controllerParams, loading, htimeout, hsub, hconfigure, rfl⟩ := h
  have hready := unconfigured.onConfigure_ready hconfigure
  have hpositive : (params.statusTimeout.isFinite && decide (0 < params.statusTimeout)) =
      true := hsub
  have hchannel : (supervisor.checkSystem nodeName params checks).1.safetyChannel =
      supervisor.safetyChannel.configure params.statusTimeout := by
    unfold SafetySupervisor.checkSystem
    dsimp only
    rw [if_pos hpositive]
  refine ⟨hsub, ?_, ?_, ready_tracks hready, ?_⟩
  · change (supervisor.checkSystem nodeName params checks).1.safetyChannel.timeout = _
    rw [hchannel, ← htimeout]
    rfl
  · change (supervisor.checkSystem nodeName params checks).1.safetyChannel.last = none
    rw [hchannel]
    rfl
  · intro hchoice
    rw [hready.mux] at hchoice
    contradiction

theorem receiveStatus_supervised (h : Supervised timeout sys past) (msg : SafetyStatus)
    (steady : Time) :
    Supervised timeout (step sys (.status msg steady)) ((sys, .status msg steady) :: past) := by
  have hreceive : sys.supervisor.receiveStatus msg steady =
      { sys.supervisor with
        safetyChannel := sys.supervisor.safetyChannel.received msg steady } := by
    unfold SafetySupervisor.receiveStatus
    rw [if_pos h.safetyStatusSub]
  refine ⟨?_, ?_, ?_, h.tracks, h.stopped⟩ <;> dsimp only [step] <;> rw [hreceive]
  · exact h.safetyStatusSub
  · exact h.timeout_eq
  · exact ⟨rfl, rfl, rfl⟩

/-- What one cycle keeps, and what it commands when the robot must stop. -/
theorem systemCycleRt_supervised (h : Supervised timeout sys past) (c : SystemCycle) :
    Supervised timeout (step sys (.cycle c)) ((sys, .cycle c) :: past) ∧
      (MustStop timeout past c.steady →
        (step sys (.cycle c)).controller.LastIsZero ∧
          ∃ new, (step sys (.cycle c)).controller.published =
              new ++ sys.controller.published ∧ ∀ cmd ∈ new, cmd.twist = {}) := by
  obtain ⟨hsame, hsafety⟩ := sys.supervisor.cycleRt_safetyStatus sys.nav c.steady c.now
    h.safetyStatusSub
  obtain ⟨hlinear, hangular⟩ := evaluate_isSpeedLimit h.knows c.steady
  set supervised := (sys.supervisor.cycleRt sys.nav c.steady c.now).2
  set ran := (sys.controller.cycleRt (c.components supervised.2) c.plugin).2
  have hnav : (c.recovery ran.2).safetyStatus =
      some (sys.supervisor.safetyChannel.evaluate c.steady).state := by
    rw [c.recovery_safetyStatus, sys.controller.cycleRt_field NavState.safetyStatus
      (fun _ _ _ => rfl) c.plugin_safetyStatus, c.components_safetyStatus, hsafety]
  have hmotion := sys.controller.cycleRt_sameMotion (c.components supervised.2) c.plugin
  have hmux := (sys.controller.cycleRt_sameSupervision (c.components supervised.2) c.plugin).mux
  have hbefore : ran.1.mux.lastChoice = .safetyStop → ran.1.LastIsZero := by
    intro hlast
    rw [hmux] at hlast
    exact lastIsZero_of_sameMotion hmotion (h.stopped hlast)
  obtain ⟨htracks, hchoice, hstop⟩ := publishCmdVelRt_of_safetyStatus
    (cycleRt_tracks h.tracks _ _) hbefore hnav hlinear hangular c.publishTime
  refine ⟨⟨?_, ?_, ?_, htracks, fun hlast => (hstop (hchoice hlast)).1⟩, ?_⟩
  · exact hsame.safetyStatusSub.trans h.safetyStatusSub
  · exact (congrArg SafetyChannelMonitor.timeout hsame.safetyChannel).trans h.timeout_eq
  · change Knows supervised.1.safetyChannel (lastReceived past)
    rw [hsame.safetyChannel]
    exact h.knows
  · intro hmust
    obtain ⟨hzero, hnew⟩ := hstop (evaluate_protectiveStop h.knows h.timeout_eq hmust)
    rw [hmotion.published] at hnew
    exact ⟨hzero, hnew⟩

theorem run_supervised (hrun : Run step (Start timeout) sys past) :
    Supervised timeout sys past := by
  refine hrun.history_invariant (fun _ _ => True) (fun _ h => start_supervised h) ?_
    (fun _ _ => trivial)
  rintro sys (⟨msg, steady⟩ | c) past h -
  · exact receiveStatus_supervised h msg steady
  · exact (systemCycleRt_supervised h c).1

end System

/-- Fail-safe stop, end to end. After every cycle at whose start nothing says that
the robot may move, the last command published is exactly zero, and the cycle
published no other. -/
theorem last_command_zero_of_mustStop {timeout : Double} {sys : RtSystem}
    {past : List (RtSystem × Event)} (hrun : Run step (Start timeout) sys past) :
    ∀ before c earlier, past = (before, .cycle c) :: earlier →
      MustStop timeout earlier c.steady →
        sys.controller.LastIsZero ∧
          ∃ new, sys.controller.published = new ++ before.controller.published ∧
            ∀ cmd ∈ new, cmd.twist = {} := by
  rintro before c earlier rfl hmust
  obtain ⟨rfl, hbefore⟩ := hrun.last
  exact (systemCycleRt_supervised (run_supervised hbefore) c).2 hmust

/-- A cycle at `steady` in which a recovery system drives the robot forward. -/
def drivingCycle (steady : Time) : SystemCycle where
  steady := steady
  now := steady
  publishTime := steady
  components := id
  plugin := fun nav => ⟨false, nav⟩
  recovery := fun nav => propose nav .override
    { twist := { linear := { x := .fin (1 / 10) } } }
  components_safetyStatus := fun _ => rfl
  plugin_safetyStatus := fun _ => rfl
  recovery_safetyStatus := fun _ => rfl

def exampleSystem : RtSystem :=
  let supervisor := (({} : SafetySupervisor).checkSystem "system_node"
    { statusTimeout := .fin (1 / 2) } {}).1
  let configured := supervisor.onConfigured {} "" 0
  { supervisor := configured.1.onActivate
    nav := configured.2
    controller := (({} : ControllerNode).onConfigure {} {}).1 }

theorem exampleSystem_start : Start (.fin (1 / 2)) exampleSystem := by
  have hconfigure : (({} : ControllerNode).onConfigure {} {}).2 = .success := by decide +kernel
  refine ⟨{}, { statusTimeout := .fin (1 / 2) }, {}, "system_node", "", 0, {}, {}, _, {}, {},
    rfl, by decide +kernel, ?_, rfl⟩
  rw [← hconfigure]

theorem last_command_zero_of_mustStop_stale :
    let driving := step (step exampleSystem (.status {} 0)) (.cycle (drivingCycle 400000000))
    driving.controller.published.map (fun cmd => cmd.twist.linear.x) = [.fin (1 / 10)] ∧
      (step driving (.cycle (drivingCycle 600000000))).controller.LastIsZero := by
  have hstart : Run step (Start (.fin (1 / 2))) exampleSystem [] := .init exampleSystem_start
  have hrun := ((hstart.next (.status {} 0)).next (.cycle (drivingCycle 400000000))).next
    (.cycle (drivingCycle 600000000))
  have hstale : durationCast (.fin (1 / 2)) < 600000000 - 0 := by decide +kernel
  exact ⟨by decide +kernel,
    (last_command_zero_of_mustStop hrun _ _ _ rfl (Or.inr (Or.inl hstale))).1⟩

end EasyNav.ProtectiveStop
