import EasyNav.NavStateMirror
import EasyNav.SlowingDown

namespace EasyNav.PausedRobot

open EasyNav.DoubleArithmetic
open EasyNav.SpeedLimits
open EasyNav.NavigationState
open EasyNav.VelocityRamp
open EasyNav.VelocitySelection
open EasyNav.CommandSupervision
open EasyNav.CommandPublication
open EasyNav.CommandTimeout (RtCycle beforePublish target)
open EasyNav.FiniteCommands (ValidLimits)
open EasyNav.CommandContinuity
open EasyNav.StopSilence (proposals selected_eq)
open EasyNav.MissionServer
open EasyNav.MissionBookkeeping
open EasyNav.NavStateMirror (Shared Synced)
open EasyNav.SlowingDown
open EasyNav.Runs

/-- The goal manager and the controller node, over the blackboard that they share. -/
structure Robot where
  shared : Shared
  controller : ControllerNode

inductive Event where
  | mission (e : MissionServer.Event)
  | controller (e : CommandTimeout.Event)

namespace Robot

/-- A cycle gets what the goal manager has written on the blackboard. -/
def onShared (robot : Robot) : CommandTimeout.Event → CommandTimeout.Event
  | .cycle c => .cycle { c with nav := robot.shared.given c.nav }
  | .stop readings => .stop readings

def control (robot : Robot) : CommandTimeout.Event → Robot
  | .cycle c =>
      let (controller, nav) := beforePublish robot.controller c
      let (controller, nav) := controller.publishCmdVelRt nav c.now
      { shared := { robot.shared with nav := nav }, controller := controller }
  | .stop readings => { robot with controller := robot.controller.stopRobot readings }

def step (getYaw : Quaternion → Double) (robot : Robot) : Event → Robot
  | .mission e => { robot with shared := NavStateMirror.step getYaw robot.shared e }
  | .controller e => robot.control (robot.onShared e)

def Start (robot : Robot) : Prop :=
  NavStateMirror.Start robot.shared ∧ FiniteCommands.Start robot.controller

end Robot

/-- What the goal manager writes on the blackboard and remembers. -/
def written (nav : NavState) : Option MissionState × Option Bool × Option Goals :=
  (nav.navigationState, nav.navigationPaused, nav.goals)

/-- The plugins leave alone what the goal manager writes. -/
def LeavesMission : Event → Prop
  | .controller (.cycle c) =>
      (∀ nav, written (c.plugin nav).nav = written nav) ∧
        ∀ nav, written (c.recovery nav) = written nav
  | _ => True

/-- A step that does not leave valid limits. -/
def Valid (robot : Robot) : Event → Prop
  | .controller e => ValidLimits robot.controller (robot.onShared e)
  | .mission _ => True

def pausedAtUpdate : List (Robot × Event) → Bool
  | [] => false
  | (robot, .mission (.operation (.update _ _))) :: _ => robot.shared.manager.paused
  | _ :: past => pausedAtUpdate past

/-- No update finds the mission no longer paused, and no recovery takes over. -/
def StaysPaused (robot : Robot) : Event → Prop
  | .mission (.operation (.update _ _)) => robot.shared.manager.paused = true
  | .controller (.cycle c) =>
      let nav := proposals robot.controller { c with nav := robot.shared.given c.nav }
      peek nav .override = none ∧ peek nav .takeover = none
  | _ => True

def controllerPast : List (Robot × Event) → List (ControllerNode × CommandTimeout.Event)
  | [] => []
  | (robot, .controller e) :: past => (robot.controller, robot.onShared e) :: controllerPast past
  | (_, .mission _) :: past => controllerPast past

section Written

variable {nav nav' : NavState}

theorem written_take (nav : NavState) (source : VelocitySource) :
    written (take nav source).2 = written nav := by
  rw [take]
  cases peek nav source <;> rfl

theorem written_discardSource (nav : NavState) (source : VelocitySource) :
    written (CommandGuard.discardSource nav source).2 = written nav := by
  rw [CommandGuard.discardSource]
  split
  · split
    · rfl
    · exact written_take nav source
  · rfl

theorem written_discardNonFinite (nav : NavState) :
    written (CommandGuard.discardNonFinite nav).2 = written nav := by
  rw [CommandGuard.discardNonFinite]
  exact (written_discardSource _ _).trans
    ((written_discardSource _ _).trans (written_discardSource _ _))

theorem written_select (mux : VelocityMux) (nav : NavState) :
    written (mux.select nav).2.2 = written nav := by
  rw [VelocityMux.select]
  exact (written_take _ _).trans ((written_take _ _).trans (written_take _ _))

theorem written_report (guard : CommandGuard) (nav : NavState) (discarded fresh : Bool) :
    written (guard.report nav discarded fresh).2 = written nav :=
  guard.report_field nav (fun _ nav => written nav) (fun _ _ _ _ => rfl) discarded fresh

theorem written_publishCmdVelRt (node : ControllerNode) (nav : NavState) (now : Time) :
    written (node.publishCmdVelRt nav now).2 = written nav := by
  rw [ControllerNode.publishCmdVelRt, ControllerNode.superviseCommand]
  exact (written_report _ _ _ _).trans
    ((written_select _ _).trans (written_discardNonFinite nav))

variable {node : ControllerNode} {c : RtCycle}

theorem written_beforePublish (hplugin : ∀ nav, written (c.plugin nav).nav = written nav)
    (hrecovery : ∀ nav, written (c.recovery nav) = written nav) :
    written (beforePublish node c).2 = written c.nav := by
  have hran := node.cycleRt_field written (fun _ _ _ => rfl) hplugin c.nav
  exact (hrecovery _).trans hran

theorem written_control (robot : Robot)
    (hplugin : ∀ nav, written (c.plugin nav).nav = written nav)
    (hrecovery : ∀ nav, written (c.recovery nav) = written nav) :
    written (robot.control (.cycle c)).shared.nav = written c.nav :=
  (written_publishCmdVelRt _ _ _).trans (written_beforePublish hplugin hrecovery)

theorem synced_congr {gm : GoalManager} (h : Synced gm nav) (hsame : written nav' = written nav) :
    Synced gm nav' := by
  obtain ⟨hstate, hrest⟩ := Prod.mk.inj hsame
  obtain ⟨hpaused, hgoals⟩ := Prod.mk.inj hrest
  refine ⟨h.wellFormed, hstate.trans h.navigationState, hpaused.trans h.navigationPaused,
    h.idle, ?_⟩
  rw [hgoals]
  exact h.goals

end Written

section Selecting

variable {node : ControllerNode} {c : RtCycle}

theorem choose_of_paused (mux : VelocityMux) (controller : Option TwistStamped)
    (protectiveStop inhibited : Bool) :
    (mux.choose none none controller true protectiveStop inhibited).cmd.twist = {} ∧
      (mux.choose none none controller true protectiveStop inhibited).choice ≠ .override := by
  unfold VelocityMux.choose
  split
  · exact ⟨rfl, by simp⟩
  · split
    · exact ⟨rfl, by simp⟩
    · exact ⟨rfl, by simp⟩

theorem target_of_paused (hpaused : (proposals node c).navigationPaused = some true)
    (hoverride : peek (proposals node c) .override = none)
    (htakeover : peek (proposals node c) .takeover = none) :
    (target node c).cmd.twist = {} ∧ (target node c).choice ≠ .override := by
  have hselected : (CommandTimeout.selected node c).cmd.twist = {} ∧
      (CommandTimeout.selected node c).choice ≠ .override := by
    rw [selected_eq node c, hpaused, hoverride, htakeover]
    exact choose_of_paused _ _ _ _
  rw [(target_choice node c).1, (CommandTimeout.cycle_eq node c).1]
  exact ⟨node.guard.supervise_twist_of_zero c.now hselected.1, hselected.2⟩

end Selecting

section Runs

variable {getYaw : Quaternion → Double} {robot : Robot} {past : List (Robot × Event)}

theorem control_controller (robot : Robot) (e : CommandTimeout.Event) :
    (robot.control e).controller = CommandTimeout.step robot.controller e := by
  cases e <;> rfl

theorem run_controller {start : Robot → Prop} {start' : ControllerNode → Prop}
    (hstart : ∀ robot, start robot → start' robot.controller)
    (hrun : Run (Robot.step getYaw) start robot past) :
    Run CommandTimeout.step start' robot.controller (controllerPast past) := by
  induction hrun with
  | init h => exact .init (hstart _ h)
  | @next robot past hrun e ih =>
      cases e with
      | mission e => exact ih
      | controller e =>
          change Run _ _ (robot.control (robot.onShared e)).controller _
          rw [control_controller]
          exact ih.next (robot.onShared e)

theorem controllerPast_valid (h : ∀ p ∈ past, Valid p.1 p.2) :
    ∀ p ∈ controllerPast past, ValidLimits p.1 p.2 := by
  induction past with
  | nil => exact fun p hp => absurd hp List.not_mem_nil
  | cons p past ih =>
      obtain ⟨hp, hpast⟩ := List.forall_mem_cons.mp h
      obtain ⟨robot, e | e⟩ := p
      · exact ih hpast
      · exact List.forall_mem_cons.mpr ⟨hp, ih hpast⟩

theorem controllerPast_append (more past : List (Robot × Event)) :
    controllerPast (more ++ past) = controllerPast more ++ controllerPast past := by
  induction more with
  | nil => rfl
  | cons p more ih =>
      obtain ⟨robot, e | e⟩ := p
      · exact ih
      · exact congrArg (_ :: ·) ih

/-- The blackboard has the pause as the last update found it. -/
structure PauseShown (robot : Robot) (past : List (Robot × Event)) : Prop where
  synced : Synced robot.shared.manager robot.shared.nav
  paused : robot.shared.nav.navigationPaused = some (pausedAtUpdate past)

theorem synced_given {shared : Shared} (h : Synced shared.manager shared.nav) (others : NavState) :
    Synced shared.manager (shared.given others) :=
  synced_congr h rfl

theorem update_navigationPaused {gm : GoalManager} {nav : NavState} (h : Synced gm nav)
    (readings : UpdateReadings) :
    (gm.update getYaw nav readings).2.1.navigationPaused = some gm.paused := by
  have hnoted := NavStateMirror.noted_synced h
  obtain ⟨-, hpaused, -⟩ := NavStateMirror.synced_nav h
  rcases update_cases gm getYaw nav readings with
    ⟨hidle, heq⟩ | ⟨-, -, heq⟩ | ⟨odom, goal, goals, hactive, -, -, heq⟩
  · rw [heq]
    obtain ⟨-, -, -, -, hsame, -⟩ :=
      NavStateMirror.updateIdle_synced hnoted hidle readings.subscribed
    exact hsame.trans hpaused
  · rw [heq]
    exact hpaused
  · rw [heq]
    obtain ⟨-, -, hsame, -⟩ :=
      NavStateMirror.updateActive_synced getYaw odom goal.pose readings hnoted hactive
    exact hsame.trans hpaused

theorem mission_told (h : PauseShown robot past) (e : MissionServer.Event) :
    PauseShown (robot.step getYaw (.mission e)) ((robot, .mission e) :: past) := by
  refine ⟨NavStateMirror.step_synced h.synced e, ?_⟩
  cases e with
  | control msg readings => exact h.paused
  | operation op =>
      cases op with
      | update others readings =>
          exact update_navigationPaused (synced_given h.synced others) readings
      | goalPose pose readings => exact h.paused
      | setFinished now => exact h.paused
      | setError reason now => exact h.paused
      | setFailed reason now => exact h.paused
      | setProgressHeld held => exact h.paused
      | readParameters params others => exact h.paused

theorem control_told (h : PauseShown robot past) {e : CommandTimeout.Event}
    (hleaves : LeavesMission (.controller e)) :
    PauseShown (robot.step getYaw (.controller e)) ((robot, .controller e) :: past) := by
  cases e with
  | stop readings => exact ⟨h.synced, h.paused⟩
  | cycle c =>
      obtain ⟨hplugin, hrecovery⟩ := hleaves
      have hwritten : written (robot.step getYaw (.controller (.cycle c))).shared.nav =
          written robot.shared.nav := written_control robot hplugin hrecovery
      refine ⟨synced_congr h.synced hwritten, ?_⟩
      exact (Prod.mk.inj (Prod.mk.inj hwritten).2).1.trans h.paused

theorem run_told (hrun : Run (Robot.step getYaw) Robot.Start robot past)
    (hleaves : ∀ p ∈ past, LeavesMission p.2) : PauseShown robot past := by
  refine hrun.history_invariant (fun _ e => LeavesMission e) ?_ ?_ hleaves
  · intro robot h
    obtain ⟨params, nav, hmanager, hnav⟩ := h.1
    refine ⟨NavStateMirror.start_synced h.1, ?_⟩
    rw [hnav]
    rfl
  · intro robot e past h hleaves
    cases e with
    | mission e => exact mission_told h e
    | controller e => exact control_told h hleaves

end Runs

section Pausing

variable {getYaw : Quaternion → Double} {robot robot' : Robot} {past more : List (Robot × Event)}

theorem pausedAtUpdate_append (hpaused : pausedAtUpdate past = true)
    (hstill : ∀ p ∈ more, StaysPaused p.1 p.2) : pausedAtUpdate (more ++ past) = true := by
  induction more with
  | nil => exact hpaused
  | cons p more ih =>
      obtain ⟨hp, hmore⟩ := List.forall_mem_cons.mp hstill
      have hbefore := ih hmore
      obtain ⟨robot, (msg | op) | c⟩ := p
      · exact hbefore
      · cases op with
        | update others readings => exact hp
        | goalPose pose readings => exact hbefore
        | setFinished now => exact hbefore
        | setError reason now => exact hbefore
        | setFailed reason now => exact hbefore
        | setProgressHeld held => exact hbefore
        | readParameters params others => exact hbefore
      · exact hbefore

theorem cycle_zeroed (htold : PauseShown robot past) (hpaused : pausedAtUpdate past = true)
    {e : CommandTimeout.Event} (hleaves : LeavesMission (.controller e))
    (hstill : StaysPaused robot (.controller e)) : Zeroed robot.controller (robot.onShared e) := by
  cases e with
  | stop readings => exact trivial
  | cycle c =>
      obtain ⟨hplugin, hrecovery⟩ := hleaves
      obtain ⟨hoverride, htakeover⟩ := hstill
      have hwritten : written (proposals robot.controller
          { c with nav := robot.shared.given c.nav }) = written robot.shared.nav :=
        (written_discardNonFinite _).trans (written_beforePublish hplugin hrecovery)
      have hseen := (Prod.mk.inj (Prod.mk.inj hwritten).2).1.trans htold.paused
      rw [hpaused] at hseen
      exact target_of_paused hseen hoverride htakeover

theorem more_zeroed (hrun : Run (Robot.step getYaw) Robot.Start robot past)
    (hpaused : pausedAtUpdate past = true)
    (hmore : Run (Robot.step getYaw) (· = robot) robot' more)
    (hleaves : ∀ p ∈ more ++ past, LeavesMission p.2) (hstill : ∀ p ∈ more, StaysPaused p.1 p.2) :
    ∀ p ∈ controllerPast more, Zeroed p.1 p.2 := by
  induction hmore with
  | init h => exact fun p hp => absurd hp List.not_mem_nil
  | @next robot' more hmore e ih =>
      obtain ⟨hleaves, hleaves'⟩ := List.forall_mem_cons.mp hleaves
      obtain ⟨hstill, hstill'⟩ := List.forall_mem_cons.mp hstill
      have hbefore := ih hleaves' hstill'
      cases e with
      | mission e => exact hbefore
      | controller e =>
          have htold := run_told (hrun.append hmore) hleaves'
          have hstays := pausedAtUpdate_append hpaused hstill'
          exact List.forall_mem_cons.mpr ⟨cycle_zeroed htold hstays hleaves hstill, hbefore⟩

/-- Once an update has found the mission paused, and until one finds it no longer so, a
robot that no recovery takes over only slows down, and it stands when the smoother has been
given the time that braking takes. -/
theorem paused_robot_stops (hrun : Run (Robot.step getYaw) Robot.Start robot past)
    (hpaused : pausedAtUpdate past = true)
    (hmore : Run (Robot.step getYaw) (· = robot) robot' more)
    (hleaves : ∀ p ∈ more ++ past, LeavesMission p.2)
    (hvalid : ∀ p ∈ more ++ past, Valid p.1 p.2) (hstill : ∀ p ∈ more, StaysPaused p.1 p.2) :
    ∃ a b : ExactCommand, a.Agrees (lastTwist robot.controller) ∧
      b.Agrees (lastTwist robot'.controller) ∧ Slower a b ∧
        ∀ time, SlowsWithin robot.controller.robotLimits .rest time a →
          time ≤ slowingTime (controllerPast more) → Under .rest b := by
  have hcontroller : Run CommandTimeout.step FiniteCommands.Start robot.controller
      (controllerPast past) := run_controller (fun _ h => h.2) hrun
  have hmoreController : Run CommandTimeout.step (· = robot.controller) robot'.controller
      (controllerPast more) := run_controller (fun _ h => congrArg Robot.controller h) hmore
  refine zeroed_brakes hcontroller hmoreController ?_
    (more_zeroed hrun hpaused hmore hleaves hstill)
  rw [← controllerPast_append]
  exact controllerPast_valid hvalid

def inPlace : Robot → Event → Robot := Robot.step fun _ => 0

def exampleRobot : Robot := ⟨NavStateMirror.exampleShared, CommandTimeout.exampleNode⟩

def pausing : List Event :=
  [.controller (.cycle CommandTimeout.exampleTakeover),
    .controller (.cycle { CommandTimeout.exampleTakeover with now := 1100000000 }),
    .mission NavStateMirror.asking, .mission NavStateMirror.pausing,
    .mission (.operation (.update {} {}))]

def braking : List Event :=
  [.controller (.cycle { CommandTimeout.exampleSilence with now := 1120000000 }),
    .controller (.cycle { CommandTimeout.exampleSilence with now := 1200000000 })]

theorem paused_robot_stops_driving :
    let robot := pausing.foldl inPlace exampleRobot
    lastTwist robot.controller = { linear := { x := .fin (1 / 20) } } ∧
      ∃ b : ExactCommand, b.Agrees (lastTwist (braking.foldl inPlace robot).controller) ∧
        Under .rest b := by
  have hstart : Robot.Start exampleRobot :=
    ⟨⟨{}, {}, rfl, rfl⟩, FiniteCommands.exampleNode_configured⟩
  have hrun : Run inPlace Robot.Start _ _ := (Run.init hstart).foldl pausing
  have hpaused : Run inPlace (· = pausing.foldl inPlace exampleRobot) _ [] := .init rfl
  have hmore := hpaused.foldl braking
  have htwist : lastTwist (pausing.foldl inPlace exampleRobot).controller =
      { linear := { x := .fin (1 / 20) } } := by decide +kernel
  have hleaves : ∀ p ∈ history inPlace (pausing.foldl inPlace exampleRobot) braking [] ++
      history inPlace exampleRobot pausing [], LeavesMission p.2 := by
    simp only [pausing, braking, history, List.forall_mem_cons, List.cons_append, List.nil_append]
    exact ⟨⟨fun _ => rfl, fun _ => rfl⟩, ⟨fun _ => rfl, fun _ => rfl⟩, trivial, trivial, trivial,
      ⟨fun _ => rfl, fun _ => rfl⟩, ⟨fun _ => rfl, fun _ => rfl⟩,
      fun p hp => absurd hp List.not_mem_nil⟩
  have hvalid : ∀ p ∈ history inPlace (pausing.foldl inPlace exampleRobot) braking [] ++
      history inPlace exampleRobot pausing [], Valid p.1 p.2 := by
    simp only [pausing, braking, history, List.forall_mem_cons, List.cons_append, List.nil_append]
    refine ⟨?_, ?_, trivial, trivial, trivial, ?_, ?_, fun p hp => absurd hp List.not_mem_nil⟩
    all_goals
      change invalidRobotLimits _ = ""
      decide +kernel
  have hstill : ∀ p ∈ history inPlace (pausing.foldl inPlace exampleRobot) braking [],
      StaysPaused p.1 p.2 := by
    simp only [braking, history, List.forall_mem_cons]
    refine ⟨⟨?_, ?_⟩, ⟨?_, ?_⟩, fun p hp => absurd hp List.not_mem_nil⟩
    all_goals decide +kernel
  obtain ⟨a, b, ha, hb, -, hstops⟩ :=
    paused_robot_stops hrun (by decide +kernel) hmore hleaves hvalid hstill
  rw [htwist] at ha
  obtain rfl : a = ⟨1 / 20, 0, 0, 0⟩ := agrees_unique ha ⟨rfl, rfl, rfl, rfl⟩
  refine ⟨htwist, b, hb, hstops (1 / 20) ?_ (by decide +kernel)⟩
  constructor <;> (rw [AxisSlows]; decide +kernel)

end Pausing

end EasyNav.PausedRobot
