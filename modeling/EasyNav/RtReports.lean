import EasyNav.ChangeReports
import EasyNav.RobotAtExit

namespace EasyNav.RtReports

open EasyNav.DoubleArithmetic
open EasyNav.NavigationState
open EasyNav.VelocitySelection
open EasyNav.CommandSupervision
open EasyNav.CommandPublication
open EasyNav.SafetySupervision
open EasyNav.SafetySupervision.SafetySupervisor
open EasyNav.Lifecycle
open EasyNav.SystemLifecycle
open EasyNav.CommandFreshness
open EasyNav.ChangeReports
open EasyNav.RobotAtExit
open EasyNav.Runs
open EasyNav.ProtectiveStop (RtSystem systemCycleRt)
open EasyNav.PoseInhibition (Unusable)

/-- A late cycle is a warning, and too many in a row are an error in safety mode. -/
def rtLevel (safetyMode : Bool) : RtStatus → DiagnosticLevel
  | .ok => .ok
  | .late => .warn
  | .error => if safetyMode then .error else .warn

/-- What was reported in one of these modes is not reported again in another one. -/
def rtReporting (modes : List Bool) : Reporting RtStatus DiagnosticStatus where
  same last found := last = found
  quiet status := status = .ok
  renders status diagnostic := ∃ mode ∈ modes, diagnostic.level = rtLevel mode status
  renders_of_same := by
    rintro a b d rfl h
    exact h

theorem rtReporting_faithful_mono {modes modes' : List Bool} (hsubset : modes ⊆ modes')
    {board : Board RtStatus DiagnosticStatus} (h : (rtReporting modes).Faithful board) :
    (rtReporting modes').Faithful board := by
  intro last hlast
  obtain ⟨shown, hshown, mode, hmode, hlevel⟩ := h last hlast
  exact ⟨shown, hshown, mode, hsubset hmode, hlevel⟩

def safetyLevel (evaluation : Evaluation) : DiagnosticLevel :=
  match evaluation.condition with
  | .valid => if evaluation.state.protectiveStop then .warn else .ok
  | _ => .error

theorem safetyLevel_of_eq {a b : Evaluation} (h : a.eq b = true) :
    safetyLevel a = safetyLevel b := by
  simp only [Evaluation.eq, Bool.and_eq_true, decide_eq_true_eq] at h
  obtain ⟨hstate, hcondition⟩ := h
  simp only [SpeedLimits.SafetyChannelState.eq, Bool.and_eq_true, beq_iff_eq] at hstate
  rw [safetyLevel, safetyLevel, hcondition, hstate.1.1.1]

def safetyReporting : Reporting Evaluation DiagnosticStatus where
  same last found := last.eq found = true
  quiet _ := False
  renders evaluation diagnostic := diagnostic.level = safetyLevel evaluation
  renders_of_same := by
    intro a b d hsame h
    rw [h, safetyLevel_of_eq hsame]

def poseReporting : Reporting Bool DiagnosticStatus where
  same last found := last = found
  quiet stale := stale = false
  renders stale diagnostic := diagnostic.level = if stale then .error else .ok
  renders_of_same := by
    rintro a b d rfl h
    exact h

def commandReporting : Reporting (DiagnosticLevel × String) DiagnosticStatus where
  same last found := last = found
  quiet found := found.1 = .ok
  renders found diagnostic := diagnostic.level = found.1 ∧ diagnostic.message = found.2
  renders_of_same := by
    rintro a b d rfl h
    exact h

structure Boards where
  rtCycle : Board RtStatus DiagnosticStatus
  safetyStatus : Board Evaluation DiagnosticStatus
  robotPose : Board Bool DiagnosticStatus
  cmdVel : Board (DiagnosticLevel × String) DiagnosticStatus

def boards (supervisor : SafetySupervisor) (guard : CommandGuard) (nav : NavState) : Boards where
  rtCycle := ⟨supervisor.lastRtReport, nav.diagnostics "rt_cycle"⟩
  safetyStatus := ⟨supervisor.lastSafetyReport, nav.diagnostics "safety_status"⟩
  robotPose := ⟨supervisor.lastPoseStale, nav.diagnostics "robot_pose"⟩
  cmdVel := ⟨guard.lastReport, nav.diagnostics "cmd_vel"⟩

def worldBoards (world : RtSystem) : Boards :=
  boards world.supervisor world.controller.guard world.nav

/-- What the check of the robot's pose finds, if it checks it. -/
def poseFinding (supervisor : SafetySupervisor) (nav : NavState) (now : Time) : Option Bool :=
  match nav.robotPose with
  | none => none
  | some pose =>
      if ¬ 0 < supervisor.maxPoseAge ∨ pose.header.stamp = 0 then none
      else some (Unusable supervisor.maxPoseAge pose now)

def safetyFinding (supervisor : SafetySupervisor) (steady : Time) : Option Evaluation :=
  if supervisor.safetyStatusSub then some (supervisor.safetyChannel.evaluate steady) else none

/-- What the guard tells of the commands of a cycle, if anything. -/
def commandFinding (node : ControllerNode) (nav : NavState) (now : Time) :
    Option (DiagnosticLevel × String) :=
  let (discarded, nav) := CommandGuard.discardNonFinite nav
  let (selection, _, _) := node.mux.select nav
  let (selection, guard) := node.guard.supervise selection now
  if guard.timedOut then some (.error, guard.timeoutMessage)
  else if discarded then some (.error, CommandGuard.discardedMessage)
  else if selection.fresh then some (.ok, CommandGuard.receivingMessage)
  else none

section Supervisor

variable (supervisor : SafetySupervisor) (guard : CommandGuard) (nav : NavState)

variable {nav} in
theorem boards_congr {nav' : NavState} (h : nav'.diagnostics = nav.diagnostics) :
    boards supervisor guard nav' = boards supervisor guard nav := by
  rw [boards, boards, h]

theorem boards_setDiagnostic_rtCycle (diagnostic : DiagnosticStatus) :
    boards supervisor guard (nav.setDiagnostic "rt_cycle" diagnostic) =
      { boards supervisor guard nav with
        rtCycle := ⟨supervisor.lastRtReport, some diagnostic⟩ } := by
  simp [boards, NavState.setDiagnostic, Function.update]

theorem boards_setDiagnostic_safetyStatus (diagnostic : DiagnosticStatus) :
    boards supervisor guard (nav.setDiagnostic "safety_status" diagnostic) =
      { boards supervisor guard nav with
        safetyStatus := ⟨supervisor.lastSafetyReport, some diagnostic⟩ } := by
  simp [boards, NavState.setDiagnostic, Function.update]

theorem boards_setDiagnostic_robotPose (diagnostic : DiagnosticStatus) :
    boards supervisor guard (nav.setDiagnostic "robot_pose" diagnostic) =
      { boards supervisor guard nav with
        robotPose := ⟨supervisor.lastPoseStale, some diagnostic⟩ } := by
  simp [boards, NavState.setDiagnostic, Function.update]

theorem boards_setDiagnostic_cmdVel (diagnostic : DiagnosticStatus) :
    boards supervisor guard (nav.setDiagnostic "cmd_vel" diagnostic) =
      { boards supervisor guard nav with cmdVel := ⟨guard.lastReport, some diagnostic⟩ } := by
  simp [boards, NavState.setDiagnostic, Function.update]

theorem rtDiagnostic_level (status : RtStatus) :
    (supervisor.rtDiagnostic status).level = rtLevel supervisor.safetyMode status := by
  cases status <;> rfl

theorem reportRtStatus_boards {modes : List Bool} (hmode : supervisor.safetyMode ∈ modes)
    (status : RtStatus) :
    ∃ board, (rtReporting modes).Checked status (boards supervisor guard nav).rtCycle board ∧
      boards (supervisor.reportRtStatus nav status).1 guard
          (supervisor.reportRtStatus nav status).2 =
        { boards supervisor guard nav with rtCycle := board } := by
  have hnews : ¬ (rtReporting modes).News (boards supervisor guard nav).rtCycle status ↔
      supervisor.lastRtReport = some status ∨ supervisor.lastRtReport = none ∧ status = .ok := by
    rw [Reporting.not_news_iff]
    simp [boards, rtReporting]
  rw [reportRtStatus]
  split
  · rename_i hold
    exact ⟨_, .of_old (hnews.mpr hold), rfl⟩
  · rename_i hnew
    refine ⟨_, .of_news (Classical.not_not.mp (mt hnews.mp hnew))
      ⟨_, hmode, rtDiagnostic_level supervisor status⟩, ?_⟩
    rw [boards_setDiagnostic_rtCycle]
    rfl

theorem publishHeartbeat_boards (status : RtStatus) (steady now : Time) :
    boards (supervisor.publishHeartbeat status steady now) guard nav =
      boards supervisor guard nav := by
  unfold publishHeartbeat
  split <;> (dsimp only; split <;> rfl)

theorem safetyDiagnostic_renders (evaluation : Evaluation) :
    safetyReporting.renders evaluation (supervisor.safetyDiagnostic evaluation) := by
  change (supervisor.safetyDiagnostic evaluation).level = safetyLevel evaluation
  rw [safetyDiagnostic, safetyLevel]
  dsimp only
  cases evaluation.condition with
  | valid =>
      dsimp only
      split <;> rfl
  | noStatus => rfl
  | stale => rfl
  | invalid => rfl

theorem applySafetyStatus_boards (steady : Time) :
    ∃ board, safetyReporting.Checks (safetyFinding supervisor steady)
        (boards supervisor guard nav).safetyStatus board ∧
      boards (supervisor.applySafetyStatus nav steady).1 guard
          (supervisor.applySafetyStatus nav steady).2 =
        { boards supervisor guard nav with safetyStatus := board } := by
  rw [applySafetyStatus, safetyFinding]
  split
  · dsimp only
    set evaluation := supervisor.safetyChannel.evaluate steady
    have hnews : ¬ safetyReporting.News (boards supervisor guard nav).safetyStatus evaluation ↔
        (supervisor.lastSafetyReport.any fun last => last.eq evaluation) = true := by
      rw [Reporting.not_news_iff]
      simp [boards, safetyReporting, Option.any_eq_true]
    rw [reportSafetyStatus]
    split
    · rename_i hold
      exact ⟨_, .of_old (hnews.mpr hold), rfl⟩
    · rename_i hnew
      refine ⟨_, .of_news (Classical.not_not.mp (mt hnews.mp hnew))
        (safetyDiagnostic_renders supervisor evaluation), ?_⟩
      rw [boards_setDiagnostic_safetyStatus]
      rfl
  · exact ⟨_, rfl, rfl⟩

theorem poseDiagnostic_renders (age : Double) (finite stale : Bool) :
    poseReporting.renders stale (supervisor.poseDiagnostic age finite stale) := rfl

theorem checkPoseAge_boards (now : Time) :
    ∃ board, poseReporting.Checks (poseFinding supervisor nav now)
        (boards supervisor guard nav).robotPose board ∧
      boards (supervisor.checkPoseAge nav now).1 guard (supervisor.checkPoseAge nav now).2 =
        { boards supervisor guard nav with robotPose := board } := by
  rw [checkPoseAge, poseFinding]
  cases nav.robotPose with
  | none => exact ⟨_, rfl, rfl⟩
  | some pose =>
      dsimp only
      split
      · exact ⟨_, rfl, rfl⟩
      · change ∃ board, poseReporting.Checked (Unusable supervisor.maxPoseAge pose now) _ board ∧ _
        have hnews : ¬ poseReporting.News (boards supervisor guard nav).robotPose
              (Unusable supervisor.maxPoseAge pose now) ↔
            supervisor.lastPoseStale = some (Unusable supervisor.maxPoseAge pose now) ∨
              supervisor.lastPoseStale = none ∧
                Unusable supervisor.maxPoseAge pose now = false := by
          rw [Reporting.not_news_iff]
          simp [boards, poseReporting]
        split
        · rename_i hold
          exact ⟨_, .of_old (hnews.mpr hold), boards_congr _ _ (by split <;> rfl)⟩
        · rename_i hnew
          have hlevel := poseDiagnostic_renders supervisor (seconds (now - pose.header.stamp))
            pose.pose.isFinite (Unusable supervisor.maxPoseAge pose now)
          refine ⟨_, .of_news (Classical.not_not.mp (mt hnews.mp hnew)) hlevel, ?_⟩
          rw [boards_setDiagnostic_robotPose]
          split <;> rfl

theorem latchFailure_boards (status : RtStatus) :
    boards (supervisor.latchFailure status) guard nav = boards supervisor guard nav := by
  rw [latchFailure]
  split <;> rfl

/-- Each check of the supervisor's cycle reports on its own board. -/
theorem cycleRt_boards {modes : List Bool} (hmode : supervisor.safetyMode ∈ modes)
    (steady now : Time) :
    ∃ rtCycle safetyStatus robotPose,
      (rtReporting modes).Checked (supervisor.rtMonitor.cycleStarted steady).status
        (boards supervisor guard nav).rtCycle rtCycle ∧
      safetyReporting.Checks (safetyFinding supervisor steady)
        (boards supervisor guard nav).safetyStatus safetyStatus ∧
      poseReporting.Checks (poseFinding supervisor nav now)
        (boards supervisor guard nav).robotPose robotPose ∧
      boards (supervisor.cycleRt nav steady now).2.1 guard
          (supervisor.cycleRt nav steady now).2.2 =
        { boards supervisor guard nav with
          rtCycle := rtCycle, safetyStatus := safetyStatus, robotPose := robotPose } := by
  rw [cycleRt, beforePoseAge]
  dsimp only
  set monitored := { supervisor with rtMonitor := supervisor.rtMonitor.cycleStarted steady }
  set status := (supervisor.rtMonitor.cycleStarted steady).status
  obtain ⟨rtCycle, hrt, hreported⟩ := reportRtStatus_boards monitored guard nav hmode status
  obtain ⟨hreport, hreportPose⟩ := monitored.reportRtStatus_sameButReports nav status
  have hreportChannel := monitored.reportRtStatus_sameChannel nav status
  set reported := monitored.reportRtStatus nav status
  have hbeating := publishHeartbeat_boards reported.1 guard reported.2 status steady now
  have hbeat := reported.1.publishHeartbeat_sameButReports status steady now
  have hchannel := (reported.1.publishHeartbeat_sameChannel status steady now).trans
    hreportChannel
  set beating := reported.1.publishHeartbeat status steady now
  obtain ⟨safetyStatus, hsafety, happlied⟩ :=
    applySafetyStatus_boards beating guard reported.2 steady
  obtain ⟨happly, happlyPose⟩ := beating.applySafetyStatus_sameButReports reported.2 steady
  set applied := beating.applySafetyStatus reported.2 steady
  obtain ⟨robotPose, hchecked, hposed⟩ := checkPoseAge_boards applied.1 guard applied.2 now
  set posed := applied.1.checkPoseAge applied.2 now
  have hfound : safetyFinding beating steady = safetyFinding supervisor steady := by
    rw [safetyFinding, hchannel.safetyStatusSub, hchannel.safetyChannel]
    rfl
  have hage : applied.1.maxPoseAge = supervisor.maxPoseAge :=
    (happly.trans (hbeat.trans hreport)).maxPoseAge
  have hpose : poseFinding applied.1 applied.2 now = poseFinding supervisor nav now := by
    rw [poseFinding, happlyPose, hreportPose, hage]
    rfl
  rw [hbeating, hreported] at hsafety happlied
  rw [happlied] at hchecked hposed
  rw [hfound] at hsafety
  rw [hpose] at hchecked
  refine ⟨rtCycle, safetyStatus, robotPose, hrt, hsafety, hchecked, ?_⟩
  rw [latchFailure_boards, hposed]
  rfl

end Supervisor

section Controller

variable (supervisor : SafetySupervisor) (node : ControllerNode) (nav : NavState)

theorem supervise_lastReport (guard : CommandGuard) (selection : Selection) (now : Time) :
    (guard.supervise selection now).2.lastReport = guard.lastReport :=
  guard.supervise_field now CommandGuard.lastReport (fun _ _ _ => rfl) selection

theorem take_diagnostics (source : VelocitySource) :
    (take nav source).2.diagnostics = nav.diagnostics := by
  rw [take]
  split <;> rfl

theorem discardNonFinite_diagnostics :
    (CommandGuard.discardNonFinite nav).2.diagnostics = nav.diagnostics := by
  have hsource : ∀ nav source,
      (CommandGuard.discardSource nav source).2.diagnostics = nav.diagnostics := by
    intro nav source
    rw [CommandGuard.discardSource]
    split
    · split
      · rfl
      · exact take_diagnostics nav source
    · rfl
  rw [CommandGuard.discardNonFinite]
  dsimp only
  rw [hsource, hsource, hsource]

theorem select_diagnostics (mux : VelocityMux) :
    (mux.select nav).2.2.diagnostics = nav.diagnostics := by
  change (take (take (take nav .override).2 .takeover).2 .controller).2.diagnostics = _
  rw [take_diagnostics, take_diagnostics, take_diagnostics]

theorem report_boards (guard : CommandGuard) (discarded fresh : Bool) :
    ∃ board, commandReporting.Checks
        (if guard.timedOut then some (.error, guard.timeoutMessage)
          else if discarded then some (.error, CommandGuard.discardedMessage)
          else if fresh then some (.ok, CommandGuard.receivingMessage)
          else none)
        (boards supervisor guard nav).cmdVel board ∧
      boards supervisor (guard.report nav discarded fresh).1
          (guard.report nav discarded fresh).2 =
        { boards supervisor guard nav with cmdVel := board } := by
  have hwrite : ∀ level message, ∃ board,
      commandReporting.Checked (level, message) (boards supervisor guard nav).cmdVel board ∧
        boards supervisor (guard.writeReport nav level message).1
            (guard.writeReport nav level message).2 =
          { boards supervisor guard nav with cmdVel := board } := by
    intro level message
    have hnews : ¬ commandReporting.News (boards supervisor guard nav).cmdVel (level, message) ↔
        guard.lastReport = none ∧ level = .ok ∨ guard.lastReport = some (level, message) := by
      rw [Reporting.not_news_iff, or_comm]
      simp [boards, commandReporting]
    rw [CommandGuard.writeReport]
    split
    · rename_i hold
      exact ⟨_, .of_old (hnews.mpr hold), rfl⟩
    · rename_i hnew
      set diagnostic : DiagnosticStatus :=
        { name := "cmd_vel", hardwareId := guard.hardwareId, level := level, message := message }
      have hrenders : commandReporting.renders (level, message) diagnostic := ⟨rfl, rfl⟩
      refine ⟨_, .of_news (Classical.not_not.mp (mt hnews.mp hnew)) hrenders, ?_⟩
      rw [boards_setDiagnostic_cmdVel]
      rfl
  rw [CommandGuard.report]
  split
  · exact hwrite _ _
  · split
    · exact hwrite _ _
    · split
      · exact hwrite _ _
      · exact ⟨_, rfl, rfl⟩

theorem publishSelection_lastReport (selection : Selection) (now : Time) :
    (node.publishSelection selection now).guard.lastReport = node.guard.lastReport := by
  rcases node.publishSelection_cases selection now with ⟨-, -, h⟩ | ⟨-, h⟩ | ⟨-, h⟩
  · rw [h]
    rfl
  · rw [h]
    rfl
  · rw [h]
    rfl

theorem followSafetyStatus_guard :
    (node.followSafetyStatus nav).guard = node.guard ∧
      (node.followSafetyStatus nav).mux = node.mux := by
  rw [ControllerNode.followSafetyStatus]
  split
  · split <;> exact ⟨rfl, rfl⟩
  · exact ⟨rfl, rfl⟩

theorem publishSelection_lastReport_boards (selection : Selection) (now : Time) :
    boards supervisor (node.publishSelection selection now).guard nav =
      boards supervisor node.guard nav := by
  rw [boards, publishSelection_lastReport]
  rfl

theorem publishCmdVelRt_boards (now : Time) :
    ∃ board, commandReporting.Checks (commandFinding node nav now)
        (boards supervisor node.guard nav).cmdVel board ∧
      boards supervisor (node.publishCmdVelRt nav now).1.guard (node.publishCmdVelRt nav now).2 =
        { boards supervisor node.guard nav with cmdVel := board } := by
  obtain ⟨hguard, hmux⟩ := followSafetyStatus_guard node nav
  rw [ControllerNode.publishCmdVelRt, ControllerNode.superviseCommand, commandFinding]
  dsimp only
  rw [publishSelection_lastReport_boards, hguard, hmux]
  set discarded := CommandGuard.discardNonFinite nav
  have hdiscarded := discardNonFinite_diagnostics nav
  set selected := node.mux.select discarded.2
  have hselected := select_diagnostics discarded.2 node.mux
  have hlast := supervise_lastReport node.guard selected.1 now
  set supervised := node.guard.supervise selected.1 now
  obtain ⟨board, hchecks, hboards⟩ := report_boards supervisor selected.2.2 supervised.2
    discarded.1 supervised.1.fresh
  have hsame : boards supervisor supervised.2 selected.2.2 = boards supervisor node.guard nav := by
    rw [boards, boards, hlast, hselected, hdiscarded]
  rw [hsame] at hchecks hboards
  exact ⟨board, hchecks, hboards⟩

theorem cycleRt_lastReport (plugin : NavState → ControllerRun) :
    (node.cycleRt nav plugin).2.1.guard.lastReport = node.guard.lastReport := by
  rw [ControllerNode.cycleRt]
  split
  · rfl
  · dsimp only
    split
    · change (node.guard.isNew _).2.lastReport = node.guard.lastReport
      rw [CommandGuard.isNew]
      split
      · split <;> rfl
      · rfl
    · rfl

end Controller

/-- The level shown under a key; nothing shown is nothing wrong. -/
def shownLevel (nav : NavState) (key : String) : DiagnosticLevel :=
  match nav.diagnostics key with
  | none => .ok
  | some diagnostic => diagnostic.level

section Levels

variable {supervisor : SafetySupervisor} {guard : CommandGuard} {nav : NavState}

theorem rtCycle_level {modes : List Bool} {mode : Bool} (hmode : mode ∈ modes)
    {status : RtStatus}
    (h : (rtReporting modes).Tells (boards supervisor guard nav).rtCycle status) :
    ∃ mode ∈ modes, shownLevel nav "rt_cycle" = rtLevel mode status := by
  rw [Reporting.Tells, boards] at h
  rw [shownLevel]
  cases hshown : nav.diagnostics "rt_cycle" with
  | none =>
      rw [hshown] at h
      obtain rfl : status = .ok := h
      exact ⟨_, hmode, rfl⟩
  | some diagnostic =>
      rw [hshown] at h
      exact h

theorem robotPose_tells_iff (stale : Bool) :
    poseReporting.Tells (boards supervisor guard nav).robotPose stale ↔
      shownLevel nav "robot_pose" = if stale then .error else .ok := by
  rw [Reporting.Tells, boards, shownLevel]
  cases nav.diagnostics "robot_pose" with
  | none => cases stale <;> simp [poseReporting]
  | some diagnostic => rfl

theorem safetyStatus_level {evaluation : Evaluation}
    (h : safetyReporting.Tells (boards supervisor guard nav).safetyStatus evaluation) :
    shownLevel nav "safety_status" = safetyLevel evaluation := by
  rw [Reporting.Tells, boards] at h
  rw [shownLevel]
  cases hshown : nav.diagnostics "safety_status" with
  | none =>
      rw [hshown] at h
      exact absurd h id
  | some diagnostic =>
      rw [hshown] at h
      exact h

theorem cmdVel_level {found : DiagnosticLevel × String}
    (h : commandReporting.Tells (boards supervisor guard nav).cmdVel found) :
    shownLevel nav "cmd_vel" = found.1 := by
  rw [Reporting.Tells, boards] at h
  rw [shownLevel]
  cases hshown : nav.diagnostics "cmd_vel" with
  | none =>
      rw [hshown] at h
      exact Eq.symm h
  | some diagnostic =>
      rw [hshown] at h
      exact h.1

end Levels

/-- What leaves the diagnostics of the real-time cycle to it. -/
def Leaves (run : NavState → NavState) : Prop :=
  ∀ nav, ∀ key ∈ ["rt_cycle", "safety_status", "robot_pose", "cmd_vel"],
    (run nav).diagnostics key = nav.diagnostics key

theorem Leaves.boards {run : NavState → NavState} (h : Leaves run) (supervisor : SafetySupervisor)
    (guard : CommandGuard) (nav : NavState) :
    boards supervisor guard (run nav) = boards supervisor guard nav := by
  rw [RtReports.boards, RtReports.boards, h nav "rt_cycle" (by decide),
    h nav "safety_status" (by decide), h nav "robot_pose" (by decide),
    h nav "cmd_vel" (by decide)]

theorem leaves_update {update : Update} (h : Leaves update.others.run) : Leaves update.run := by
  intro nav key hkey
  rw [Update.run, ← h nav key hkey]
  refine List.foldlRecOn
    (motive := fun nav' : NavState =>
      nav'.diagnostics key = (update.others.run nav).diagnostics key) update.actions _ rfl ?_
  intro nav' hnav action _
  cases action <;> exact hnav

/-- Nothing but the cycle itself writes its diagnostics in this step. -/
def LeavesReports : Event → Prop
  | .rtCycle update =>
      Leaves update.components.run ∧ Leaves update.controller.others.run ∧
        Leaves update.recovery.others.run
  | .cycle components recovery => Leaves components.run ∧ Leaves recovery.others.run
  | .transition _ choices | .cleanupSubnodes choices =>
      Leaves choices.goalManager.run ∧
        ∀ name transition, Leaves (choices.others name transition).run
  | .status _ _ | .requestShutdown _ => True

/-- The controller node and the blackboard as the command of a cycle is selected. -/
def atPublication (world : RtSystem) (update : RtUpdate) : ControllerNode × NavState :=
  CommandTimeout.beforePublish world.controller (PoseInhibition.controllerCycle world update.cycle)

structure CycleReports (modes : List Bool) (world : RtSystem) (update : RtUpdate)
    (old new : Boards) : Prop where
  rtCycle : (rtReporting modes).Checked
    (world.supervisor.rtMonitor.cycleStarted update.steady).status old.rtCycle new.rtCycle
  safetyStatus : safetyReporting.Checks (safetyFinding world.supervisor update.steady)
    old.safetyStatus new.safetyStatus
  robotPose : poseReporting.Checks (poseFinding world.supervisor world.nav update.now)
    old.robotPose new.robotPose
  cmdVel : commandReporting.Checks (commandFinding (atPublication world update).1
    (atPublication world update).2 update.publishTime) old.cmdVel new.cmdVel

theorem systemCycleRt_reports {modes : List Bool} (world : RtSystem)
    (hmode : world.supervisor.safetyMode ∈ modes) {update : RtUpdate}
    (h : LeavesReports (.rtCycle update)) :
    CycleReports modes world update (worldBoards world)
      (worldBoards (systemCycleRt world update.cycle)) := by
  obtain ⟨hcomponents, hplugin, hrecovery⟩ := h
  obtain ⟨rtCycle, safetyStatus, robotPose, hrt, hsafety, hpose, hsupervised⟩ :=
    cycleRt_boards world.supervisor world.controller.guard world.nav hmode update.steady
      update.now
  set supervised := world.supervisor.cycleRt world.nav update.steady update.now with hcycle
  have hcontrolled : boards supervised.2.1 (atPublication world update).1.guard
        (atPublication world update).2 =
      boards supervised.2.1 world.controller.guard supervised.2.2 := by
    have hplugged : Leaves fun nav => (update.cycle.plugin nav).nav := by
      intro nav key hkey
      change (ControllerRun.nav (if update.ran then _ else _)).diagnostics key = _
      split
      · exact leaves_update hplugin nav key hkey
      · exact hplugin nav key hkey
    have hran : Leaves fun nav => (world.controller.cycleRt nav update.cycle.plugin).2.2 :=
      fun nav key hkey => world.controller.cycleRt_field (fun nav => nav.diagnostics key)
        (fun _ _ _ => rfl) (fun nav => hplugged nav key hkey) nav
    set ran := world.controller.cycleRt (update.components.run supervised.2.2) update.cycle.plugin
      with hcontroller
    have hlast : ran.2.1.guard.lastReport = world.controller.guard.lastReport := by
      rw [hcontroller]
      exact cycleRt_lastReport world.controller (update.components.run supervised.2.2)
        update.cycle.plugin
    change boards supervised.2.1 ran.2.1.guard (update.recovery.run ran.2.2) = _
    rw [(leaves_update hrecovery).boards, ← hcomponents.boards _ _ supervised.2.2,
      ← hran.boards _ _ (update.components.run supervised.2.2)]
    rw [boards, boards, hlast]
  obtain ⟨cmdVel, hcmd, hpublished⟩ := publishCmdVelRt_boards supervised.2.1
    (atPublication world update).1 (atPublication world update).2 update.publishTime
  rw [hcontrolled, hsupervised] at hcmd hpublished
  have hboards : worldBoards (systemCycleRt world update.cycle) =
      ⟨rtCycle, safetyStatus, robotPose, cmdVel⟩ := hpublished
  rw [hboards]
  exact ⟨hrt, hsafety, hpose, hcmd⟩

section Transitions

variable {choices : Choices}

theorem stopRobot_lastReport (node : ControllerNode) (readings : StopReadings) :
    (node.stopRobot readings).guard.lastReport = node.guard.lastReport := by
  have hbrake : ∀ deadline,
      (node.brake readings.robotFrame deadline readings.loop).guard.lastReport =
        node.guard.lastReport :=
    fun deadline => node.brake_induction
      (motive := fun node' => node'.guard.lastReport = node.guard.lastReport)
      (fun _ _ h => h) rfl _ _ _
  rw [ControllerNode.stopRobot]
  split
  · rfl
  · dsimp only
    split
    · exact hbrake _
    · rfl

theorem onConfigure_lastReport (node : ControllerNode) (params : ControllerParameters)
    (loading : PluginLoading) :
    (node.onConfigure params loading).1.guard.lastReport = node.guard.lastReport := by
  obtain ⟨hsame, -⟩ := ControllerNode.configurePlugin_sameButLimits _
    (node.startOver_limitsEnforced params) loading
  have hread : (node.readConfiguration params).1.guard.lastReport = node.guard.lastReport := by
    change (CommandGuard.configure _ _ _ _).1.lastReport = node.guard.lastReport
    rw [CommandGuard.configure]
    split <;> rfl
  have hlast := (congrArg CommandGuard.lastReport
    (hsame.guard.trans (node.readConfiguration params).1.createPublisher_guard)).trans hread
  rw [ControllerNode.onConfigure]
  dsimp only
  split
  · exact hread
  · split
    · exact hlast
    · split
      · exact hlast
      · split <;> exact hlast

theorem controllerTransition_lastReport (choices : Choices) (transition : Transition)
    (world : RtSystem) :
    ((choices.callbacks .controllerNode).on transition world).1.controller.guard.lastReport =
      world.controller.guard.lastReport := by
  cases transition with
  | configure => exact onConfigure_lastReport world.controller choices.params choices.loading
  | activate => rfl
  | deactivate => exact stopRobot_lastReport world.controller choices.readings
  | cleanup => rfl
  | shutdown => exact stopRobot_lastReport world.controller choices.readings

/-- No part of a transition reports anything, nor forgets what was reported. -/
theorem keeps_boards (old : Boards) (was : Bool) (hleaves : Leaves choices.goalManager.run ∧
      ∀ name transition, Leaves (choices.others name transition).run) :
    Keeps choices fun data => worldBoards data.world = old ∧ (data.active = true → was = true) := by
  obtain ⟨hmanager, hothers⟩ := hleaves
  constructor
  · rintro data name transition ⟨hboards, hactive⟩
    refine ⟨?_, hactive⟩
    have hon : ∀ world : RtSystem, worldBoards world = old →
        worldBoards ((choices.callbacks name).on transition world).1 = old := by
      intro world hworld
      cases name with
      | controllerNode =>
          rw [← hworld, worldBoards, boards, controllerTransition_lastReport]
          cases transition <;> rfl
      | _ => exact ((hothers _ transition).boards _ _ _).trans hworld
    have herror : ∀ world : RtSystem, worldBoards world = old →
        worldBoards ((choices.callbacks name).onError world).1 = old := by
      intro world hworld
      cases name <;> exact hworld
    exact Managed.trigger_data (motive := fun world : RtSystem => worldBoards world = old)
      ⟨data.subnodes name, data.world⟩ hon herror hboards
  · exact fun data h => h
  · rintro data ⟨hboards, hactive⟩
    exact ⟨(hmanager.boards _ _ _).trans hboards, hactive⟩

end Transitions

/-- The supervisor forgets these reports when the system is activated. -/
def Boards.forget (b : Boards) : Boards :=
  { b with
    safetyStatus := { b.safetyStatus with last := none }
    robotPose := { b.robotPose with last := none } }

/-- Every check knows what it shows, but for those that are forgotten. -/
structure BoardsShown (modes : List Bool) (b : Boards) : Prop where
  rtCycle : (rtReporting modes).Faithful b.rtCycle
  rtUnshown : b.rtCycle.last = none → b.rtCycle.shown = none
  safetyStatus : safetyReporting.Faithful b.safetyStatus
  robotPose : poseReporting.Faithful b.robotPose
  cmdVel : commandReporting.Faithful b.cmdVel
  cmdUnshown : b.cmdVel.last = none → b.cmdVel.shown = none

theorem BoardsShown.mono {modes modes' : List Bool} (hsubset : modes ⊆ modes') {b : Boards}
    (h : BoardsShown modes b) : BoardsShown modes' b :=
  { h with rtCycle := rtReporting_faithful_mono hsubset h.rtCycle }

theorem BoardsShown.forget {modes : List Bool} {b : Boards} (h : BoardsShown modes b) :
    BoardsShown modes b.forget :=
  { h with
    safetyStatus := by
      intro last hlast
      cases hlast
    robotPose := by
      intro last hlast
      cases hlast }

theorem CycleReports.told {modes : List Bool} {world : RtSystem} {update : RtUpdate}
    {old new : Boards} (hcycle : CycleReports modes world update old new)
    (h : BoardsShown modes old) : BoardsShown modes new where
  rtCycle := hcycle.rtCycle.faithful h.rtCycle
  rtUnshown := hcycle.rtCycle.unshown h.rtUnshown
  safetyStatus := hcycle.safetyStatus.keeps
    (fun _ hchecked => hchecked.faithful h.safetyStatus) h.safetyStatus
  robotPose := hcycle.robotPose.keeps (fun _ hchecked => hchecked.faithful h.robotPose)
    h.robotPose
  cmdVel := hcycle.cmdVel.keeps (fun _ hchecked => hchecked.faithful h.cmdVel) h.cmdVel
  cmdUnshown := hcycle.cmdVel.keeps
    (motive := fun b : Board _ _ => b.last = none → b.shown = none)
    (fun _ hchecked => hchecked.unshown h.cmdUnshown) h.cmdUnshown

/-- A cycle finds the robot's pose too old, or not finite. -/
def findsUnusable (node : Node) : Event → Bool
  | .rtCycle update =>
      node.data.active && decide (poseFinding node.data.world.supervisor node.data.world.nav
        update.now = some true)
  | _ => false

/-- The pose was found unusable since the last activation. -/
def unusableSince : List (Node × Event) → Bool
  | [] => false
  | (node, e) :: past =>
      if Activates node e then false else findsUnusable node e || unusableSince past

/-- Whether safety mode is on, and whether it was before. -/
def safetyModes (past : List (Node × Event)) (node : Node) : List Bool :=
  node.data.world.supervisor.safetyMode ::
    past.map fun p => p.1.data.world.supervisor.safetyMode

theorem safetyModes_subset (past : List (Node × Event)) (node : Node) (e : Event) :
    safetyModes past node ⊆ safetyModes ((node, e) :: past) (step node e) :=
  List.subset_cons_self _ _

structure Reported (past : List (Node × Event)) (node : Node) : Prop where
  halting : Halting node
  told : BoardsShown (safetyModes past node) (worldBoards node.data.world)
  remembered : (worldBoards node.data.world).robotPose.last.isSome = unusableSince past

theorem poseChecked_tells_iff {stale : Bool} {old new : Board Bool DiagnosticStatus}
    (h : poseReporting.Checked stale old new) (hfaithful : poseReporting.Faithful old) :
    poseReporting.Tells new stale ↔
      stale = true ∨ old.last.isSome = true ∨ poseReporting.Tells old false := by
  rw [h.tells_iff hfaithful]
  cases stale with
  | true => exact iff_of_true (fun _ hquiet => by cases hquiet) (Or.inl rfl)
  | false =>
      cases old.last with
      | none => simp [poseReporting]
      | some last => exact iff_of_true (fun hnone => by cases hnone) (Or.inr (Or.inl rfl))

theorem poseChecks_last {found : Option Bool} {old new : Board Bool DiagnosticStatus}
    (h : poseReporting.Checks found old new) :
    new.last.isSome = (decide (found = some true) || old.last.isSome) := by
  cases found with
  | none =>
      obtain rfl : new = old := h
      rfl
  | some stale =>
      have hchecked : poseReporting.Checked stale old new := h
      by_cases hnews : poseReporting.News old stale
      · rw [(hchecked.report hnews).1]
        cases hlast : old.last with
        | none =>
            rw [Reporting.News, hlast] at hnews
            have hstale : stale = true := by simpa [poseReporting] using hnews
            rw [hstale]
            rfl
        | some last => simp
      · rw [hchecked.keep hnews]
        rcases Reporting.not_news_iff.mp hnews with ⟨last, hlast, -⟩ | ⟨-, rfl⟩
        · rw [hlast]
          simp
        · rfl

theorem active_of_inactive {node : Node} (h : Halting node) (hstate : node.state = .inactive) :
    node.data.active = false := by
  cases h with
  | running hother hrunning =>
      dsimp only at hstate
      subst hstate
      rcases hother with hother | hother <;> cases hother
  | halted hhalted => exact hhalted.1

section Runs

variable {node : Node} {past : List (Node × Event)}

theorem Reported.unreporting (h : Reported past node) {e : Event}
    (hboards : worldBoards (step node e).data.world = worldBoards node.data.world)
    (hactive : (step node e).data.active = true → node.data.active = true)
    (hfinds : findsUnusable node e = false) : Reported ((node, e) :: past) (step node e) := by
  have hkeeps : ¬ Activates node e := by
    rintro ⟨hstopped, hactivated⟩
    rw [hactive hactivated] at hstopped
    cases hstopped
  refine ⟨halting_step h.halting e, ?_, ?_⟩
  · rw [hboards]
    exact h.told.mono (safetyModes_subset past node e)
  · rw [hboards, h.remembered, unusableSince, if_neg hkeeps, hfinds, Bool.false_or]

theorem rtCycle_reported (h : Reported past node) {update : RtUpdate}
    (hleaves : LeavesReports (.rtCycle update)) :
    Reported ((node, .rtCycle update) :: past) (step node (.rtCycle update)) := by
  cases hactive : node.data.active with
  | false =>
      have hsame : step node (.rtCycle update) = node := by
        rw [step, Deactivation.rtCycle_of_stopped hactive]
      refine h.unreporting (congrArg (fun node : Node => worldBoards node.data.world) hsame) ?_ ?_
      · rw [hsame]
        exact id
      · rw [findsUnusable, hactive, Bool.false_and]
  | true =>
      obtain ⟨-, -, hworld⟩ := rtCycle_eq hactive update.cycle
      have hmodes := safetyModes_subset past node (.rtCycle update)
      have hcycle := systemCycleRt_reports node.data.world (hmodes List.mem_cons_self) hleaves
      rw [← hworld] at hcycle
      have hkeeps : ¬ Activates node (.rtCycle update) := by
        rintro ⟨hstopped, -⟩
        rw [hactive] at hstopped
        cases hstopped
      refine ⟨halting_step h.halting _, hcycle.told (h.told.mono hmodes), ?_⟩
      rw [unusableSince, if_neg hkeeps, findsUnusable, hactive, Bool.true_and, ← h.remembered]
      exact poseChecks_last hcycle.robotPose

theorem transition_reported (h : Reported past node) (transition : Transition)
    {choices : Choices} (hleaves : LeavesReports (.transition transition choices)) :
    Reported ((node, .transition transition choices) :: past)
      (step node (.transition transition choices)) := by
  have hkeeps := keeps_boards (worldBoards node.data.world) node.data.active hleaves
  have hstopped : ∀ data : SystemData RtSystem,
      worldBoards data.world = worldBoards node.data.world ∧
          (data.active = true → node.data.active = true) →
        worldBoards (data.stopCycles choices.hooks.clearCmdVel).world =
            worldBoards node.data.world ∧
          ((data.stopCycles choices.hooks.clearCmdVel).active = true →
            node.data.active = true) :=
    fun data hdata => ⟨hdata.1, fun hactive => by cases hactive⟩
  rcases hkeeps.transition hstopped ⟨rfl, id⟩ transition with
    ⟨hboards, hactive⟩ | ⟨hinactive, data, ⟨hboards, -⟩, hstep⟩
  · exact h.unreporting hboards hactive rfl
  · have hcycles : node.data.active = false := active_of_inactive h.halting hinactive
    have hactivates : Activates node (.transition transition choices) := by
      refine ⟨hcycles, ?_⟩
      rw [hstep]
    have hforgets : worldBoards (step node (.transition transition choices)).data.world =
        (worldBoards node.data.world).forget := by
      rw [hstep, ← hboards]
      rfl
    refine ⟨halting_step h.halting _, ?_, ?_⟩
    · rw [hforgets]
      exact (h.told.mono (safetyModes_subset past node _)).forget
    · rw [hforgets, unusableSince, if_pos hactivates]
      rfl

theorem step_reported (h : Reported past node) (e : Event) (hleaves : LeavesReports e) :
    Reported ((node, e) :: past) (step node e) := by
  cases e with
  | rtCycle update => exact rtCycle_reported h hleaves
  | transition transition choices => exact transition_reported h transition hleaves
  | cycle components recovery =>
      obtain ⟨hcomponents, hrecovery⟩ := hleaves
      refine h.unreporting ?_ ?_ rfl
      · rw [step]
        split
        · exact ((leaves_update hrecovery).boards _ _ _).trans (hcomponents.boards _ _ _)
        · rfl
      · rw [step]
        split <;> exact id
  | status msg steady =>
      refine h.unreporting ?_ id rfl
      change boards (node.data.world.supervisor.receiveStatus msg steady) _ _ = _
      rw [receiveStatus]
      split <;> rfl
  | requestShutdown reason => exact h.unreporting rfl id rfl
  | cleanupSubnodes choices =>
      have hcleaned := (keeps_boards (worldBoards node.data.world) node.data.active
        hleaves).cleanupSubnodes ⟨rfl, id⟩
      refine h.unreporting ?_ ?_ rfl
      · rw [step]
        split
        · exact hcleaned.1
        · rfl
      · rw [step]
        split
        · exact hcleaned.2
        · exact id

theorem run_reported (hrun : Run step Start node past)
    (hleaves : ∀ p ∈ past, LeavesReports p.2) : Reported past node := by
  refine hrun.history_invariant (motive := fun node past => Reported past node)
    (fun _ e => LeavesReports e) ?_ ?_ hleaves
  · rintro node rfl
    have htold : BoardsShown (safetyModes [] constructed) (worldBoards constructed.data.world) := by
      constructor <;> intro last <;> first | rfl | (intro hlast; cases hlast)
    exact ⟨halting_constructed, htold, rfl⟩
  · exact fun _ e _ h hleaves => step_reported h e hleaves

def exampleLocalized (stamp : Time) : Quiet where
  run nav := { nav with robotPose := some { header := { stamp := stamp } } }
  sameCommands _ := ⟨rfl, rfl⟩
  safetyStatus _ := rfl

def exampleCycle (now stamp : Time) : RtUpdate where
  steady := now
  now := now
  publishTime := now
  components := exampleLocalized stamp

def exampleReactivated : List Event :=
  exampleStart ++
    [.rtCycle (exampleCycle 1000000000 1000000000), .rtCycle (exampleCycle 11000000000 11000000000),
      .transition .deactivate exampleChoices, .transition .activate exampleChoices]

theorem exampleCycle_leaves (now stamp : Time) :
    LeavesReports (.rtCycle (exampleCycle now stamp)) :=
  ⟨fun _ _ _ => rfl, fun _ _ _ => rfl, fun _ _ _ => rfl⟩

theorem exampleReactivated_leaves :
    ∀ p ∈ history step constructed exampleReactivated [], LeavesReports p.2 := by
  have htransition : ∀ transition, LeavesReports (.transition transition exampleChoices) :=
    fun _ => ⟨fun _ _ _ => rfl, fun _ _ _ _ _ => rfl⟩
  simp only [exampleReactivated, exampleStart, List.cons_append, List.nil_append, history,
    List.forall_mem_cons]
  exact ⟨htransition _, htransition _, exampleCycle_leaves _ _, exampleCycle_leaves _ _,
    htransition _, htransition _, List.forall_mem_nil _⟩

end Runs

end EasyNav.RtReports
