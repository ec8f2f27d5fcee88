import EasyNav.Deactivation
import EasyNav.PoseInhibition

namespace EasyNav.CommandFreshness

open EasyNav.ExtendedArithmetic
open EasyNav.DoubleArithmetic
open EasyNav.NavigationState
open EasyNav.VelocitySelection
open EasyNav.CommandSupervision
open EasyNav.CommandPublication
open EasyNav.CommandTimeout
open EasyNav.SafetySupervision
open EasyNav.ProtectiveStop
open EasyNav.Lifecycle
open EasyNav.SystemLifecycle
open EasyNav.SystemLifecycle.SystemData
open EasyNav.PoseInhibition
open EasyNav.Runs

/-- What a component writes to the blackboard besides velocity commands. -/
structure Quiet where
  run : NavState → NavState
  sameCommands : ∀ nav, SameCommands (run nav) nav
  safetyStatus : ∀ nav, (run nav).safetyStatus = nav.safetyStatus

theorem id_safetyStatus (nav : NavState) : (id nav).safetyStatus = nav.safetyStatus := rfl

def Quiet.nothing : Quiet where
  run := id
  sameCommands := SameCommands.refl
  safetyStatus := id_safetyStatus

inductive Action where
  | writeCmdVel (cmd : TwistStamped)
  | commandVelocity (cmd : TwistStamped)
  | overrideVelocity (cmd : TwistStamped)

def Action.cmd : Action → TwistStamped
  | .writeCmdVel cmd | .commandVelocity cmd | .overrideVelocity cmd => cmd

def Action.run (nav : NavState) : Action → NavState
  | .writeCmdVel cmd => { nav with cmdVel := some cmd }
  | .commandVelocity cmd => propose nav .takeover cmd
  | .overrideVelocity cmd => propose nav .override cmd

structure Update where
  others : Quiet := .nothing
  actions : List Action := []

def Update.run (update : Update) (nav : NavState) : NavState :=
  update.actions.foldl Action.run (update.others.run nav)

def Update.commands (update : Update) : List TwistStamped := update.actions.map Action.cmd

theorem Update.run_safetyStatus (update : Update) (nav : NavState) :
    (update.run nav).safetyStatus = nav.safetyStatus := by
  rw [Update.run]
  refine List.foldlRecOn (motive := fun nav' : NavState => nav'.safetyStatus = nav.safetyStatus)
    update.actions _ (update.others.safetyStatus nav) ?_
  intro nav' h action _
  cases action <;> exact h

/-- One real-time cycle; the controller runs if it is time to or it is triggered. -/
structure RtUpdate where
  steady : Time
  now : Time
  publishTime : Time
  components : Quiet := .nothing
  ran : Bool := true
  controller : Update := {}
  recovery : Update := {}

/-- What each transition meets: what the operating system and the parameters are, and
what the subnodes other than the controller node do and answer. -/
structure Choices where
  readings : StopReadings
  params : ControllerParameters := {}
  loading : PluginLoading := {}
  others : Subnode → Transition → Quiet := fun _ _ => .nothing
  answers : Subnode → Transition → CallbackReturn := fun _ _ => .success
  recovers : Subnode → CallbackReturn := fun _ => .success
  nodeName : String := "system_node"
  safety : SafetyParameters := {}
  checks : SystemChecks := {}
  systemValid : Bool := true
  frequenciesValid : Bool := true
  goalManager : Quiet := .nothing
  hash : String := ""
  steady : Time := 0

def Choices.forController (choices : Choices) : Deactivation.Choices where
  readings := choices.readings
  params := choices.params
  loading := choices.loading

def Choices.callbacks (choices : Choices) : Subnode → Callbacks RtSystem
  | .controllerNode => Deactivation.controllerCallbacks choices.forController
  | name =>
      { on := fun transition world =>
          ({ world with nav := (choices.others name transition).run world.nav },
            choices.answers name transition)
        onError := fun world => (world, choices.recovers name) }

def Choices.hooks (choices : Choices) : SystemHooks RtSystem where
  -- Sets a parameter of the controller node: it is among `params`.
  forwardDeprecated world := world
  checkSystem world :=
    let (supervisor, safetyValid) :=
      world.supervisor.checkSystem choices.nodeName choices.safety choices.checks
    ({ world with supervisor := supervisor }, choices.systemValid && safetyValid)
  checkSubnodes world :=
    world.supervisor.checkController choices.params world.controller && choices.frequenciesValid
  onConfigured world :=
    let (supervisor, nav) := world.supervisor.onConfigured
      (choices.goalManager.run world.nav) choices.hash choices.steady
    { world with supervisor := supervisor, nav := nav }
  onActivated := Deactivation.activateSupervisor
  clearCmdVel := Deactivation.clearCmdVel choices.forController

inductive Event where
  | rtCycle (update : RtUpdate)
  /-- `SystemNode::system_cycle`: the other components, then the recovery system. -/
  | cycle (components : Quiet) (recovery : Update)
  | status (msg : SafetyStatus) (steady : Time)
  | requestShutdown (reason : String)
  | transition (transition : Transition) (choices : Choices)
  /-- In `SystemNode::restart_with`, after a failed configure. -/
  | cleanupSubnodes (choices : Choices)

def RtUpdate.cycle (update : RtUpdate) : SystemCycle where
  steady := update.steady
  now := update.now
  publishTime := update.publishTime
  components := update.components.run
  plugin nav :=
    if update.ran then ⟨true, update.controller.run nav⟩
    else ⟨false, update.controller.others.run nav⟩
  recovery := update.recovery.run
  components_safetyStatus := update.components.safetyStatus
  plugin_safetyStatus nav := by
    split
    · exact update.controller.run_safetyStatus nav
    · exact update.controller.others.safetyStatus nav
  recovery_safetyStatus := update.recovery.run_safetyStatus

abbrev Node := Managed (SystemData RtSystem)

def step (node : Node) : Event → Node
  | .rtCycle update => { node with data := Deactivation.rtCycle node.data update.cycle }
  | .cycle components recovery =>
      if node.state = .active then
        { node with
          data := { node.data with
            world := { node.data.world with
              nav := recovery.run (components.run node.data.world.nav) } } }
      else node
  | .status msg steady => { node with data := Deactivation.receiveStatus node.data msg steady }
  | .requestShutdown reason => { node with data := node.data.requestShutdown reason }
  | .transition transition choices =>
      node.trigger (systemCallbacks choices.callbacks choices.hooks) transition
  | .cleanupSubnodes choices =>
      if node.state = .unconfigured then
        { node with data := node.data.cleanupSubnodes choices.callbacks }
      else node

def constructed : Node where
  state := .unconfigured
  data :=
    { subnodes := fun _ => .unconfigured
      active := false
      shutdownReason := none
      world := { supervisor := {}, nav := {}, controller := {} } }

def Start (node : Node) : Prop := node = constructed

/-- The commands that the plugins propose or write in a step. -/
def commands (node : Node) : Event → List TwistStamped
  | .rtCycle update =>
      if node.data.active then
        (if node.data.world.controller.controller.isSome && update.ran then
          update.controller.commands else []) ++ update.recovery.commands
      else []
  | .cycle _ recovery => if node.state = .active then recovery.commands else []
  | _ => []

/-- The step enables the real-time cycles. -/
def Activates (node : Node) (e : Event) : Prop :=
  node.data.active = false ∧ (step node e).data.active = true

instance (node : Node) (e : Event) : Decidable (Activates node e) :=
  inferInstanceAs (Decidable (_ ∧ _))

/-- The commands since the last activation, newest step first. -/
def commandsSince : List (Node × Event) → List TwistStamped
  | [] => []
  | (node, e) :: past =>
      if Activates node e then [] else commands node e ++ commandsSince past

def selectedCmd (node : Node) (update : RtUpdate) : TwistStamped :=
  (selected node.data.world.controller (controllerCycle node.data.world update.cycle)).cmd

/-- No finite velocity command other than zero is proposed when the system is activated. -/
def NothingProposed (node : Node) (e : Event) : Prop :=
  Activates node e → ∀ source, ∀ cmd ∈ peek node.data.world.nav source,
    cmd.twist.isFinite = true → cmd.twist = {}

/-- A command that moves the robot is among the given ones. -/
def Given (given : List TwistStamped) (cmd : TwistStamped) : Prop :=
  cmd.twist ≠ {} → cmd ∈ given

theorem Given.mono {given more : List TwistStamped} (hsubset : given ⊆ more)
    {cmd : TwistStamped} (h : Given given cmd) : Given more cmd :=
  fun htwist => hsubset (h htwist)

theorem Given.of_zero {given : List TwistStamped} {cmd : TwistStamped} (h : cmd.twist = {}) :
    Given given cmd :=
  fun htwist => absurd h htwist

/-- Every command on the blackboard that may be selected is among the given ones. -/
structure Accounted (given : List TwistStamped) (nav : NavState) : Prop where
  cmdVel : ∀ cmd ∈ nav.cmdVel, Given given cmd
  proposal : ∀ source, ∀ cmd ∈ peek nav source, cmd.twist.isFinite = true → Given given cmd

section Blackboard

variable {given : List TwistStamped} {nav : NavState}

theorem Accounted.mono {more : List TwistStamped} (hsubset : given ⊆ more)
    (h : Accounted given nav) : Accounted more nav := by
  constructor
  · intro cmd hcmd
    exact (h.cmdVel cmd hcmd).mono hsubset
  · intro source cmd hcmd hfinite
    exact (h.proposal source cmd hcmd hfinite).mono hsubset

theorem Accounted.congr {nav' : NavState} (hsame : SameCommands nav' nav)
    (h : Accounted given nav) : Accounted given nav' := by
  constructor
  · rw [hsame.cmdVel]
    exact h.cmdVel
  · intro source
    rw [hsame.peek_eq]
    exact h.proposal source

theorem Accounted.propose (h : Accounted given nav) {cmd : TwistStamped}
    (hcmd : Given given cmd) (source : VelocitySource) :
    Accounted given (propose nav source cmd) := by
  constructor
  · exact h.cmdVel
  · intro other proposed hproposed
    rw [peek_propose] at hproposed
    split at hproposed
    · obtain rfl := Option.some.inj hproposed
      exact fun _ => hcmd
    · exact h.proposal other proposed hproposed

theorem Accounted.action (h : Accounted given nav) {action : Action}
    (haction : action.cmd ∈ given) : Accounted given (action.run nav) := by
  have hcmd : Given given action.cmd := fun _ => haction
  cases action with
  | writeCmdVel cmd =>
      constructor
      · intro written hwritten
        obtain rfl := Option.some.inj hwritten
        exact hcmd
      · exact h.proposal
  | commandVelocity cmd => exact h.propose hcmd .takeover
  | overrideVelocity cmd => exact h.propose hcmd .override

theorem Accounted.update (h : Accounted given nav) {update : Update}
    (hcommands : update.commands ⊆ given) : Accounted given (update.run nav) := by
  rw [Update.run]
  refine List.foldlRecOn update.actions _ (h.congr (update.others.sameCommands nav)) ?_
  intro nav' h' action haction
  exact h'.action (hcommands (List.mem_map_of_mem haction))

end Blackboard

section Cycle

variable {given : List TwistStamped} {node : Node} {update : RtUpdate}

theorem cycleRt_accounted {controller : ControllerNode} {nav : NavState}
    (h : Accounted given nav)
    (hcommands : controller.controller.isSome = true → update.ran = true →
      update.controller.commands ⊆ given) :
    Accounted given (controller.cycleRt nav update.cycle.plugin).2.2 := by
  rcases controller.cycleRt_nav nav update.cycle.plugin with hnav | ⟨hloaded, hnav⟩
  · rw [hnav]
    exact h
  · have hrun : Accounted given (update.cycle.plugin nav).nav := by
      simp only [RtUpdate.cycle]
      split
      · rename_i hran
        exact h.update (hcommands hloaded hran)
      · exact h.congr (update.controller.others.sameCommands nav)
    rcases hnav with hnav | ⟨cmd, -, hcmd, hnav⟩
    · rw [hnav]
      exact hrun
    · rw [hnav]
      exact hrun.propose (hrun.cmdVel cmd hcmd) .controller

theorem beforePublish_accounted (hactive : node.data.active = true)
    (h : Accounted given node.data.world.nav)
    (hcommands : commands node (.rtCycle update) ⊆ given) :
    Accounted given (beforePublish node.data.world.controller
      (controllerCycle node.data.world update.cycle)).2 := by
  rw [commands, if_pos hactive] at hcommands
  obtain ⟨hcontroller, hrecovery⟩ := List.append_subset.mp hcommands
  have hcomponents : Accounted given
      (controllerCycle node.data.world update.cycle).nav :=
    h.congr ((update.components.sameCommands _).trans
      (node.data.world.supervisor.cycleRt_sameCommands _ _ _))
  apply Accounted.update _ hrecovery
  apply cycleRt_accounted hcomponents
  intro hloaded hran
  rw [hloaded, hran] at hcontroller
  exact hcontroller

theorem selectedCmd_given (hactive : node.data.active = true)
    (h : Accounted given node.data.world.nav)
    (hlast : Given given node.data.world.controller.mux.lastTarget)
    (hcommands : commands node (.rtCycle update) ⊆ given) :
    Given given (selectedCmd node update) := by
  set controller := node.data.world.controller
  set cycle := controllerCycle node.data.world update.cycle
  have hbefore := beforePublish_accounted hactive h hcommands
  have hproposed : ∀ source,
      peek (CommandGuard.discardNonFinite (beforePublish controller cycle).2).2 source =
        some (selectedCmd node update) → Given given (selectedCmd node update) := by
    intro source hcmd
    rw [CommandGuard.peek_discardNonFinite, Option.filter_eq_some_iff] at hcmd
    exact hbefore.proposal source _ hcmd.1 hcmd.2
  have hselected : selectedCmd node update = ((beforePublish controller cycle).1.mux.select
      (CommandGuard.discardNonFinite (beforePublish controller cycle).2).2).1.cmd := rfl
  rw [VelocityMux.select_selection] at hselected
  rcases VelocityMux.choose_cmd_cases with hcmd | hcmd | hcmd | hcmd | hcmd
  · exact hproposed .override (by rw [hselected]; exact hcmd)
  · exact hproposed .takeover (by rw [hselected]; exact hcmd)
  · exact hproposed .controller (by rw [hselected]; exact hcmd)
  · rw [hselected, hcmd, (beforePublish_sameSupervision controller cycle).mux]
    exact hlast
  · rw [hselected]
    exact .of_zero hcmd

theorem systemCycleRt_accounted (hactive : node.data.active = true)
    (h : Accounted given node.data.world.nav)
    (hcommands : commands node (.rtCycle update) ⊆ given) :
    Accounted given (systemCycleRt node.data.world update.cycle).nav := by
  set controller := node.data.world.controller
  set cycle := controllerCycle node.data.world update.cycle
  have hbefore := beforePublish_accounted hactive h hcommands
  obtain ⟨hcmdVel, hpeek⟩ := (beforePublish controller cycle).1.publishCmdVelRt_nav
    (beforePublish controller cycle).2 cycle.now
  constructor
  · intro cmd hcmd
    exact hbefore.cmdVel cmd (hcmdVel ▸ hcmd)
  · intro source cmd hcmd
    have hnone := (hpeek source).symm.trans hcmd
    contradiction

end Cycle

/-- The controller node, in this state, holds no target; it can stop the robot. -/
structure ControllerAtRest (state : PrimaryState) (controller : ControllerNode) : Prop where
  lastTarget : controller.mux.lastTarget.twist = {}
  connected : state = .inactive ∨ state = .active → controller.Connected

/-- The real-time cycles are stopped, and the blackboard has the commands of `nav`. -/
structure AtRest (nav : NavState) (data : SystemData RtSystem) : Prop where
  active : data.active = false
  controller : ControllerAtRest (data.subnodes .controllerNode) data.world.controller
  sameCommands : SameCommands data.world.nav nav

section Transitions

variable {nav : NavState} {data : SystemData RtSystem}

theorem stopRobot_atRest {controller : ControllerNode}
    (h : controller.mux.lastTarget.twist = {} ∨ controller.Connected) (readings : StopReadings) :
    (controller.stopRobot readings).mux.lastTarget.twist = {} := by
  rcases h with hzero | hconnected
  · rcases controller.stopRobot_mux readings with hmux | hmux
    · rw [hmux]
      exact hzero
    · rw [hmux]
  · rw [(controller.stopRobot_of_connected hconnected readings).1.mux]

theorem connected_of_other {state : PrimaryState} {controller : ControllerNode}
    (h : state = .unconfigured ∨ state = .finalized) :
    state = .inactive ∨ state = .active → controller.Connected := by
  rintro (rfl | rfl) <;> rcases h with h | h <;> cases h

/-- A controller node that is Inactive or Active is connected, and stays so. -/
theorem trigger_connected {state : PrimaryState} {world : RtSystem}
    (h : state = .inactive ∨ state = .active → world.controller.Connected) (choices : Choices)
    (transition : Transition) :
    let node := (Managed.mk state world).trigger (choices.callbacks .controllerNode) transition
    node.state = .inactive ∨ node.state = .active → node.data.controller.Connected := by
  cases transition with
  | configure =>
      cases state with
      | unconfigured =>
          rcases hresult : world.controller.onConfigure choices.params choices.loading with
            ⟨configured, answer⟩
          have hon : (choices.callbacks .controllerNode).on .configure world =
              ({ world with controller := configured }, answer) :=
            congrArg (Deactivation.setController world) hresult
          rw [Managed.trigger_of_goal PrimaryState.goal_configure]
          dsimp only
          rw [hon]
          cases answer with
          | success => exact fun _ => (world.controller.onConfigure_ready hresult).connected
          | failure => exact connected_of_other (Or.inl rfl)
          | error => exact connected_of_other (Or.inl rfl)
      | _ => exact h
  | activate =>
      cases state with
      | inactive => exact fun _ => h (Or.inl rfl)
      | _ => exact h
  | deactivate =>
      cases state with
      | active =>
          have hconnected := h (Or.inr rfl)
          exact fun _ =>
            (world.controller.stopRobot_of_connected hconnected choices.readings).2.connected
              hconnected
      | _ => exact h
  | cleanup =>
      cases state with
      | inactive => exact connected_of_other (Or.inl rfl)
      | _ => exact h
  | shutdown =>
      cases state with
      | finalized => exact h
      | _ => exact connected_of_other (Or.inr rfl)

/-- No transition of the controller node gives it another target than a zero one. -/
theorem trigger_lastTarget (state : PrimaryState) {world : RtSystem}
    (h : world.controller.mux.lastTarget.twist = {}) (choices : Choices)
    (transition : Transition) :
    let node := (Managed.mk state world).trigger (choices.callbacks .controllerNode) transition
    node.data.controller.mux.lastTarget.twist = {} ∧ node.data.nav = world.nav := by
  apply Managed.trigger_data (motive := fun world' : RtSystem =>
    world'.controller.mux.lastTarget.twist = {} ∧ world'.nav = world.nav)
  · rintro world' ⟨hzero, hnav⟩
    cases transition with
    | configure =>
        refine ⟨?_, hnav⟩
        rcases world'.controller.onConfigure_mux choices.params choices.loading with hmux | hmux
        · exact (congrArg (fun mux => mux.lastTarget.twist) hmux).trans hzero
        · exact congrArg (fun mux => mux.lastTarget.twist) hmux
    | deactivate => exact ⟨stopRobot_atRest (Or.inl hzero) choices.readings, hnav⟩
    | shutdown => exact ⟨stopRobot_atRest (Or.inl hzero) choices.readings, hnav⟩
    | activate => exact ⟨hzero, hnav⟩
    | cleanup => exact ⟨hzero, hnav⟩
  · exact fun world' h => h
  · exact ⟨h, rfl⟩

theorem trigger_controllerAtRest {state : PrimaryState} {world : RtSystem}
    (h : ControllerAtRest state world.controller) (choices : Choices) (transition : Transition) :
    let node := (Managed.mk state world).trigger (choices.callbacks .controllerNode) transition
    ControllerAtRest node.state node.data.controller ∧ node.data.nav = world.nav := by
  obtain ⟨hzero, hnav⟩ := trigger_lastTarget state h.lastTarget choices transition
  exact ⟨⟨hzero, trigger_connected h.connected choices transition⟩, hnav⟩

theorem trigger_other (world : RtSystem) (choices : Choices) {name : Subnode}
    (hname : name ≠ .controllerNode) (state : PrimaryState) (transition : Transition) :
    let node := (Managed.mk state world).trigger (choices.callbacks name) transition
    node.data.controller = world.controller ∧ SameCommands node.data.nav world.nav := by
  apply Managed.trigger_data (motive := fun world' : RtSystem =>
    world'.controller = world.controller ∧ SameCommands world'.nav world.nav)
  · intro world' h
    cases name with
    | controllerNode => exact absurd rfl hname
    | _ => exact ⟨h.1, ((choices.others _ transition).sameCommands _).trans h.2⟩
  · intro world' h
    cases name with
    | controllerNode => exact absurd rfl hname
    | _ => exact h
  · exact ⟨rfl, .refl world.nav⟩

theorem AtRest.triggerSubnode (h : AtRest nav data) (choices : Choices) (name : Subnode)
    (transition : Transition) :
    AtRest nav (data.triggerSubnode choices.callbacks name transition) := by
  by_cases hname : name = .controllerNode
  · subst hname
    obtain ⟨hcontroller, hnav⟩ := trigger_controllerAtRest h.controller choices transition
    refine ⟨h.active, ?_, ?_⟩
    · rw [SystemData.triggerSubnode]
      dsimp only
      rw [Function.update_self]
      exact hcontroller
    · rw [SystemData.triggerSubnode]
      dsimp only
      rw [hnav]
      exact h.sameCommands
  · obtain ⟨hcontroller, hnav⟩ :=
      trigger_other data.world choices hname (data.subnodes name) transition
    refine ⟨h.active, ?_, hnav.trans h.sameCommands⟩
    rw [triggerSubnode_subnodes_of_ne _ _ (Ne.symm hname)]
    rw [SystemData.triggerSubnode]
    dsimp only
    rw [hcontroller]
    exact h.controller

theorem AtRest.triggerAll (h : AtRest nav data) (choices : Choices) (transition : Transition)
    (expected : PrimaryState) (names : List Subnode) :
    AtRest nav (SystemData.triggerAll choices.callbacks transition expected names data).1 :=
  triggerAll_induction _ (fun _ name h => h.triggerSubnode choices name transition) h
    expected names

theorem AtRest.cleanupSubnodes (h : AtRest nav data) (choices : Choices) :
    AtRest nav (data.cleanupSubnodes choices.callbacks) :=
  cleanupSubnodes_induction _ (fun _ name h => h.triggerSubnode choices name .cleanup) h

theorem onConfigured_eq (choices : Choices) (world : RtSystem) :
    (choices.hooks.onConfigured world).controller = world.controller ∧
      SameCommands (choices.hooks.onConfigured world).nav world.nav := by
  have hmanager := choices.goalManager.sameCommands world.nav
  exact ⟨rfl, hmanager.cmdVel, hmanager.proposal⟩

theorem AtRest.onConfigure (h : AtRest nav data) (choices : Choices) :
    AtRest nav (data.onConfigure choices.callbacks choices.hooks).1 := by
  apply onConfigure_induction _ _ _ _ h
  · intro data name transition hdata
    exact hdata.triggerSubnode choices name transition
  · intro data hdata
    exact ⟨hdata.active, hdata.controller, hdata.sameCommands⟩
  · intro data hdata
    obtain ⟨hcontroller, hnav⟩ := onConfigured_eq choices data.world
    refine ⟨hdata.active, ?_, hnav.trans hdata.sameCommands⟩
    dsimp only
    rw [hcontroller]
    exact hdata.controller

/-- Activating enables the cycles, or leaves the system at rest. -/
theorem AtRest.onActivate (h : AtRest nav data) (choices : Choices) :
    let result := data.onActivate choices.callbacks choices.hooks.onActivated
    result.2 = .failure ∧ AtRest nav result.1 ∨
      result.2 = .success ∧ ∃ ready : SystemData RtSystem, AtRest nav ready ∧ result.1 =
        { ready with active := true, world := Deactivation.activateSupervisor ready.world } := by
  have hall := h.triggerAll choices .activate .active systemNodes
  rw [SystemData.onActivate]
  dsimp only
  split
  · exact Or.inl ⟨rfl, hall⟩
  · exact Or.inr ⟨rfl, _, hall, rfl⟩

/-- The first subnode to be deactivated is the controller node, which stops the robot. -/
theorem onDeactivate_atRest (hcontroller : ControllerAtRest (data.subnodes .controllerNode)
      data.world.controller ∨ data.subnodes .controllerNode = .active ∧
        data.world.controller.Connected) (choices : Choices) :
    AtRest (choices.hooks.clearCmdVel data.world).nav
      (data.onDeactivate choices.callbacks choices.hooks.clearCmdVel).1 := by
  set cleared := data.stopCycles choices.hooks.clearCmdVel
  have hstopped : AtRest (choices.hooks.clearCmdVel data.world).nav
      (cleared.triggerSubnode choices.callbacks .controllerNode .deactivate) := by
    rcases hcontroller with hcontroller | ⟨hactive, hconnected⟩
    · have hcleared : AtRest (choices.hooks.clearCmdVel data.world).nav cleared :=
        ⟨rfl, hcontroller, .refl _⟩
      exact hcleared.triggerSubnode choices .controllerNode .deactivate
    · have hzero := stopRobot_atRest (Or.inr hconnected) choices.readings
      have htopics :=
        (data.world.controller.stopRobot_of_connected hconnected choices.readings).2
      have hstate : cleared.subnodes .controllerNode = .active := hactive
      have hon : ((choices.callbacks .controllerNode).on .deactivate cleared.world).2 =
          .success := rfl
      rw [triggerSubnode_of_success PrimaryState.goal_deactivate hstate hon]
      refine ⟨rfl, ?_, .refl _⟩
      dsimp only
      rw [Function.update_self]
      exact ⟨hzero, fun _ => htopics.connected hconnected⟩
  rw [SystemData.onDeactivate, deactivateSubnodes_fst, systemNodes, SystemData.triggerAll]
  split
  · exact hstopped
  · exact hstopped.triggerAll choices .deactivate .inactive _

theorem AtRest.onError (h : AtRest nav data) (choices : Choices) :
    AtRest nav (data.onError choices.callbacks).1 := by
  rw [SystemData.onError]
  split
  · exact h
  · exact List.foldlRecOn systemNodes _ h
      fun _ h name _ => AtRest.triggerSubnode h choices name .shutdown

end Transitions

/-- What a run keeps: while the cycles run, what may be selected is among the given
commands; while they are stopped, nothing is held, and nothing is written outside Active. -/
inductive Consistent (given : List TwistStamped) : Node → Prop
  | running {state : PrimaryState} {data : SystemData RtSystem}
      (hstate : state = .active ∨ state = .finalized) (hactive : data.active = true)
      (hsubnode : data.subnodes .controllerNode = .active)
      (hconnected : data.world.controller.Connected)
      (hlast : Given given data.world.controller.mux.lastTarget)
      (hnav : Accounted given data.world.nav) : Consistent given ⟨state, data⟩
  | stopped {state : PrimaryState} {data : SystemData RtSystem} {nav : NavState}
      (hrest : AtRest nav data)
      (hcleared : state = .unconfigured ∨ state = .inactive →
        ∀ cmd ∈ nav.cmdVel, cmd.twist = {}) : Consistent given ⟨state, data⟩

section Steps

variable {given : List TwistStamped} {state goal : PrimaryState}
  {data : SystemData RtSystem} {nav : NavState}

theorem settle_consistent {result : SystemData RtSystem × CallbackReturn}
    (hrest : AtRest nav result.1) (hcleared : ∀ cmd ∈ nav.cmdVel, cmd.twist = {})
    (choices : Choices) (transition : Transition) :
    Consistent given (Managed.settle (SystemData.onError choices.callbacks) transition state
      goal result) := by
  obtain ⟨data, answer⟩ := result
  cases answer with
  | success => exact .stopped hrest fun _ => hcleared
  | failure => exact .stopped hrest fun _ => hcleared
  | error =>
      have herror := AtRest.onError hrest choices
      rw [Managed.settle]
      split
      · rename_i heq
        rw [heq] at herror
        exact .stopped herror fun _ => hcleared
      · rename_i heq
        rw [heq] at herror
        exact .stopped herror fun _ => hcleared

theorem deactivate_consistent (hcontroller : ControllerAtRest (data.subnodes .controllerNode)
      data.world.controller ∨ data.subnodes .controllerNode = .active ∧
        data.world.controller.Connected) (choices : Choices) :
    Consistent given (step ⟨.active, data⟩ (.transition .deactivate choices)) := by
  refine settle_consistent (onDeactivate_atRest hcontroller choices) ?_ choices .deactivate
  intro cmd hcmd
  obtain rfl := Option.some.inj hcmd
  rfl

theorem activate_consistent (hrest : AtRest nav data)
    (hcleared : ∀ cmd ∈ nav.cmdVel, cmd.twist = {}) (choices : Choices)
    (hclear : NothingProposed ⟨.inactive, data⟩ (.transition .activate choices)) :
    Consistent given (step ⟨.inactive, data⟩ (.transition .activate choices)) := by
  have hstep : step ⟨.inactive, data⟩ (.transition .activate choices) =
      Managed.settle (SystemData.onError choices.callbacks) .activate .inactive .active
        (data.onActivate choices.callbacks choices.hooks.onActivated) := rfl
  have hsubnodes : (data.onActivate choices.callbacks choices.hooks.onActivated).2 = .success →
      (data.onActivate choices.callbacks choices.hooks.onActivated).1.subnodes .controllerNode =
        .active := fun hsuccess => onActivate_subnodes hsuccess .controllerNode
  rw [NothingProposed, Activates] at hclear
  rw [hstep] at hclear ⊢
  rcases hresult : data.onActivate choices.callbacks choices.hooks.onActivated with
    ⟨final, answer⟩
  have hactivate := hrest.onActivate choices
  rw [hresult] at hactivate hclear hsubnodes
  rcases hactivate with ⟨hanswer, hfinal⟩ | ⟨hanswer, ready, hready, hfinal⟩
  · exact settle_consistent hfinal hcleared choices .activate
  · dsimp only at hanswer hfinal
    subst hanswer hfinal
    have hpeek := hclear ⟨hrest.active, rfl⟩
    refine .running (Or.inl rfl) rfl (hsubnodes rfl) ?_ ?_ ?_
    · exact hready.controller.connected (Or.inr (hsubnodes rfl))
    · exact .of_zero hready.controller.lastTarget
    · constructor
      · intro cmd hcmd
        exact .of_zero (hcleared cmd (hready.sameCommands.cmdVel ▸ hcmd))
      · intro source cmd hcmd hfinite
        apply Given.of_zero
        apply hpeek source cmd _ hfinite
        rw [hrest.sameCommands.peek_eq, ← hready.sameCommands.peek_eq]
        exact hcmd

theorem rtCycle_eq (hactive : data.active = true) (c : SystemCycle) :
    (Deactivation.rtCycle data c).active = true ∧
      (Deactivation.rtCycle data c).subnodes = data.subnodes ∧
      (Deactivation.rtCycle data c).world = systemCycleRt data.world c := by
  rw [Deactivation.rtCycle, if_pos hactive]
  dsimp only
  split <;> exact ⟨hactive, rfl, rfl⟩

theorem rtCycle_consistent {node : Node} (hstate : node.state = .active ∨ node.state = .finalized)
    (hactive : node.data.active = true) (hsubnode : node.data.subnodes .controllerNode = .active)
    (hconnected : node.data.world.controller.Connected)
    (hlast : Given given node.data.world.controller.mux.lastTarget)
    (hnav : Accounted given node.data.world.nav) (update : RtUpdate) :
    Consistent (commands node (.rtCycle update) ++ given) (step node (.rtCycle update)) := by
  have hmore : given ⊆ commands node (.rtCycle update) ++ given := List.subset_append_right _ _
  have hcommands : commands node (.rtCycle update) ⊆ commands node (.rtCycle update) ++ given :=
    List.subset_append_left _ _
  have hnav' := hnav.mono hmore
  obtain ⟨hactive', hsubnodes', hworld'⟩ := rtCycle_eq hactive update.cycle
  refine .running hstate hactive' ?_ ?_ ?_ ?_
  · rw [hsubnodes']
    exact hsubnode
  · rw [hworld']
    exact Deactivation.systemCycleRt_connected hconnected update.cycle
  · rw [hworld', systemCycleRt_controller, (cycle_eq _ _).2.1]
    exact selectedCmd_given hactive hnav' (hlast.mono hmore) hcommands
  · rw [hworld']
    exact systemCycleRt_accounted hactive hnav' hcommands

theorem step_of_invalid {node : Node} {transition : Transition} (choices : Choices)
    (h : node.state.goal transition = none) :
    step node (.transition transition choices) = node := Managed.trigger_of_invalid h

theorem running_step {node : Node} (hstate : node.state = .active ∨ node.state = .finalized)
    (hactive : node.data.active = true) (hsubnode : node.data.subnodes .controllerNode = .active)
    (hconnected : node.data.world.controller.Connected)
    (hlast : Given given node.data.world.controller.mux.lastTarget)
    (hnav : Accounted given node.data.world.nav) (e : Event) :
    Consistent (commands node e ++ given) (step node e) := by
  rcases node with ⟨state, data⟩
  cases e with
  | rtCycle update =>
      exact rtCycle_consistent hstate hactive hsubnode hconnected hlast hnav update
  | cycle components recovery =>
      rw [commands, step]
      split
      · have hcomponents := (hnav.congr (components.sameCommands _)).mono
          (List.subset_append_right recovery.commands given)
        refine .running hstate hactive hsubnode hconnected ?_ ?_
        · exact hlast.mono (List.subset_append_right _ _)
        · exact hcomponents.update (List.subset_append_left _ _)
      · exact .running hstate hactive hsubnode hconnected hlast hnav
  | status msg steady => exact .running hstate hactive hsubnode hconnected hlast hnav
  | requestShutdown reason => exact .running hstate hactive hsubnode hconnected hlast hnav
  | transition transition choices =>
      have hsame : Consistent given ⟨state, data⟩ :=
        .running hstate hactive hsubnode hconnected hlast hnav
      rcases hstate with rfl | rfl
      · cases transition with
        | deactivate => exact deactivate_consistent (Or.inr ⟨hsubnode, hconnected⟩) choices
        | shutdown => exact .running (Or.inr rfl) hactive hsubnode hconnected hlast hnav
        | _ => exact hsame
      · rw [step_of_invalid choices (by cases transition <;> rfl)]
        exact hsame
  | cleanupSubnodes choices =>
      rw [step, if_neg]
      · exact .running hstate hactive hsubnode hconnected hlast hnav
      · rcases hstate with hstate | hstate <;> rw [hstate] <;> decide

theorem stopped_transition (hrest : AtRest nav data)
    (hcleared : state = .unconfigured ∨ state = .inactive → ∀ cmd ∈ nav.cmdVel, cmd.twist = {})
    (transition : Transition) (choices : Choices)
    (hclear : NothingProposed ⟨state, data⟩ (.transition transition choices)) :
    Consistent given (step ⟨state, data⟩ (.transition transition choices)) := by
  have hsame : Consistent given ⟨state, data⟩ := .stopped hrest hcleared
  cases state with
  | unconfigured =>
      have hzero := hcleared (Or.inl rfl)
      cases transition with
      | configure => exact settle_consistent (hrest.onConfigure choices) hzero choices .configure
      | shutdown => exact .stopped hrest fun _ => hzero
      | _ => exact hsame
  | inactive =>
      have hzero := hcleared (Or.inr rfl)
      cases transition with
      | activate => exact activate_consistent hrest hzero choices hclear
      | cleanup =>
          exact settle_consistent (hrest.triggerAll choices .cleanup .unconfigured systemNodes)
            hzero choices .cleanup
      | shutdown => exact .stopped hrest fun _ => hzero
      | _ => exact hsame
  | active =>
      cases transition with
      | deactivate => exact deactivate_consistent (Or.inl hrest.controller) choices
      | shutdown => exact .stopped hrest (by rintro (h | h) <;> contradiction)
      | _ => exact hsame
  | finalized =>
      rw [step_of_invalid choices (by cases transition <;> rfl)]
      exact hsame

theorem stopped_step (hrest : AtRest nav data)
    (hcleared : state = .unconfigured ∨ state = .inactive → ∀ cmd ∈ nav.cmdVel, cmd.twist = {})
    (e : Event) (hclear : NothingProposed ⟨state, data⟩ e) :
    Consistent given (step ⟨state, data⟩ e) := by
  cases e with
  | rtCycle update =>
      rw [step, Deactivation.rtCycle_of_stopped hrest.active]
      exact .stopped hrest hcleared
  | cycle components recovery =>
      rw [step]
      split
      · rename_i hactive
        dsimp only at hactive
        subst hactive
        exact .stopped ⟨hrest.active, hrest.controller, .refl _⟩
          (by rintro (h | h) <;> contradiction)
      · exact .stopped hrest hcleared
  | status msg steady =>
      exact .stopped ⟨hrest.active, hrest.controller, hrest.sameCommands⟩ hcleared
  | requestShutdown reason =>
      exact .stopped ⟨hrest.active, hrest.controller, hrest.sameCommands⟩ hcleared
  | transition transition choices =>
      exact stopped_transition hrest hcleared transition choices hclear
  | cleanupSubnodes choices =>
      rw [step]
      split
      · exact .stopped (hrest.cleanupSubnodes choices) hcleared
      · exact .stopped hrest hcleared

theorem step_consistent {node : Node} {past : List (Node × Event)}
    (h : Consistent (commandsSince past) node) (e : Event) (hclear : NothingProposed node e) :
    Consistent (commandsSince ((node, e) :: past)) (step node e) := by
  cases h with
  | running hstate hactive hsubnode hconnected hlast hnav =>
      rw [commandsSince, if_neg]
      · exact running_step hstate hactive hsubnode hconnected hlast hnav e
      · rintro ⟨hstopped, -⟩
        exact absurd hactive (by rw [hstopped]; decide)
  | stopped hrest hcleared => exact stopped_step hrest hcleared e hclear

end Steps

section Runs

variable {node : Node} {past : List (Node × Event)}

theorem run_consistent (hrun : Run step Start node past)
    (hclear : ∀ p ∈ past, NothingProposed p.1 p.2) : Consistent (commandsSince past) node := by
  refine hrun.history_invariant (motive := fun node past => Consistent (commandsSince past) node)
    NothingProposed ?_ ?_ hclear
  · rintro node rfl
    have hrest : AtRest {} constructed.data :=
      ⟨rfl, ⟨rfl, by rintro (h | h) <;> contradiction⟩, .refl _⟩
    refine .stopped hrest ?_
    intro _ cmd hcmd
    contradiction
  · exact fun _ e _ h hclear => step_consistent h e hclear

/-- While nothing is proposed when the system is activated: a command that a real-time
cycle selects and that moves the robot was proposed or written since the last activation. -/
theorem selected_since_activation (hrun : Run step Start node past)
    (hclear : ∀ p ∈ past, NothingProposed p.1 p.2) (hactive : node.data.active = true)
    (update : RtUpdate) (htwist : (selectedCmd node update).twist ≠ {}) :
    selectedCmd node update ∈ commands node (.rtCycle update) ++ commandsSince past := by
  have hmore : commandsSince past ⊆ commands node (.rtCycle update) ++ commandsSince past :=
    List.subset_append_right _ _
  cases run_consistent hrun hclear with
  | running _ _ _ _ hlast hnav =>
      exact selectedCmd_given hactive (hnav.mono hmore) (hlast.mono hmore)
        (List.subset_append_left _ _) htwist
  | stopped hrest _ => exact absurd hactive (by rw [hrest.active]; decide)

end Runs

def exampleChoices : Choices where
  readings := { start := 500000000, loop := [], last := 500000000 }

def exampleForward : TwistStamped where
  header := { stamp := 400000000 }
  twist := { linear := { x := .fin (1 / 10) } }

def exampleOverride : Update where
  actions := [.overrideVelocity exampleForward]

def exampleUpdate (recovery : Update) : RtUpdate where
  steady := 600000000
  now := 600000000
  publishTime := 600000000
  recovery := recovery

def exampleStart : List Event :=
  [.transition .configure exampleChoices, .transition .activate exampleChoices]

theorem selected_since_activation_override :
    exampleForward ∈ commands (exampleStart.foldl step constructed)
        (.rtCycle (exampleUpdate exampleOverride)) ++
      commandsSince (history step constructed exampleStart []) := by
  have hrun : Run step Start constructed [] := .init rfl
  have hconfigured : ¬ Activates constructed (.transition .configure exampleChoices) := by
    decide +kernel
  have hpeek : ∀ source, peek (step constructed
      (.transition .configure exampleChoices)).data.world.nav source = none := by
    intro source
    cases source <;> decide +kernel
  have hselected : selectedCmd (exampleStart.foldl step constructed)
      (exampleUpdate exampleOverride) = exampleForward := by decide +kernel
  have hmem := selected_since_activation (hrun.foldl exampleStart) ?_ (by decide +kernel)
    (exampleUpdate exampleOverride) (by decide +kernel)
  · rw [hselected] at hmem
    exact hmem
  · intro p hp
    rcases List.mem_cons.mp hp with rfl | hp
    · intro _ source cmd hcmd
      have hnone := (hpeek source).symm.trans hcmd
      contradiction
    · obtain rfl := List.mem_singleton.mp hp
      exact fun hactivates => absurd hactivates hconfigured

def exampleCrossing : List Event :=
  exampleStart ++ [.cycle .nothing exampleOverride, .transition .deactivate exampleChoices,
    .transition .activate exampleChoices]

/-- The first real-time cycle publishes an override of before the activation. -/
theorem override_crosses_inactivity :
    Run step Start (exampleCrossing.foldl step constructed)
        (history step constructed exampleCrossing []) ∧
      (exampleCrossing.foldl step constructed).data.active = true ∧
      selectedCmd (exampleCrossing.foldl step constructed) (exampleUpdate {}) =
        exampleForward ∧
      (step (exampleCrossing.foldl step constructed)
        (.rtCycle (exampleUpdate {}))).data.world.controller.published.head?.map
          TwistStamped.twist = some exampleForward.twist ∧
      exampleForward.twist ≠ {} ∧
      exampleForward ∉ commands (exampleCrossing.foldl step constructed)
          (.rtCycle (exampleUpdate {})) ++
        commandsSince (history step constructed exampleCrossing []) := by
  have hrun : Run step Start constructed [] := .init rfl
  refine ⟨hrun.foldl exampleCrossing, ?_, ?_, ?_, ?_, ?_⟩
  · decide +kernel
  · decide +kernel
  · decide +kernel
  · decide +kernel
  · decide +kernel

end EasyNav.CommandFreshness
