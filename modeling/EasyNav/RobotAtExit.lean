import EasyNav.SmootherConvergence
import EasyNav.SystemMain

namespace EasyNav.RobotAtExit

open EasyNav.NavigationState
open EasyNav.CommandPublication
open EasyNav.CommandPublication.ControllerNode
open EasyNav.Lifecycle
open EasyNav.SystemLifecycle
open EasyNav.SystemLifecycle.SystemData
open EasyNav.CommandFreshness
open EasyNav.SystemMain
open EasyNav.SmootherConvergence
open EasyNav.SpeedLimits
open EasyNav.ProtectiveStop (RtSystem)

/-- Only a real-time cycle commands the robot to move. -/
def moves : Event → Bool
  | .rtCycle _ => true
  | _ => false

theorem moves_requests (requests : List String) :
    ∀ e ∈ requests.map Event.requestShutdown, moves e = false :=
  List.forall_mem_map.mpr fun _ _ => rfl

theorem moves_events (turn : TransitionTurn) {event : Choices → Event}
    (h : moves (event turn.toChoices) = false) : ∀ e ∈ turn.events event, moves e = false := by
  intro e he
  rcases List.mem_append.mp he with he | he
  · exact moves_requests turn.requests e he
  · rwa [List.mem_singleton.mp he]

section Restarts

variable {motive : Node → Prop} {node : Node}
  (hstep : ∀ (node : Node) (e : Event), motive node → moves e = false → motive (step node e))

include hstep

theorem foldl_induction (h : motive node) {events : List Event}
    (hevents : ∀ e ∈ events, moves e = false) : motive (events.foldl step node) :=
  List.foldlRecOn events step h fun node h e he => hstep node e h (hevents e he)

theorem restartWith_induction (h : motive node) (restart : Restart) :
    motive (restartWith node restart).1 := by
  have hturn : ∀ {node} (turn : TransitionTurn) (event : Choices → Event), motive node →
      moves (event turn.toChoices) = false → motive ((turn.events event).foldl step node) :=
    fun turn _ h hmoves => foldl_induction hstep h (moves_events turn hmoves)
  rw [restartWith]
  dsimp only
  set stopped :=
    if node.state = .active then
      (restart.deactivate.events (.transition .deactivate)).foldl step node
    else node with hstopped
  have hmotive : motive stopped := by
    rw [hstopped]
    split
    · exact hturn _ _ h rfl
    · exact h
  set cleaned :=
    if stopped.state = .inactive then
      (restart.cleanup.events (.transition .cleanup)).foldl step stopped
    else stopped with hcleaned
  have hmotive : motive cleaned := by
    rw [hcleaned]
    split
    · exact hturn _ _ hmotive rfl
    · exact hmotive
  split
  · exact hmotive
  · have hleftovers := hturn restart.leftovers .cleanupSubnodes hmotive rfl
    have hconfigured := hturn restart.configure (.transition .configure) hleftovers rfl
    split
    · exact hconfigured
    · exact hturn restart.activate (.transition .activate) hconfigured rfl

theorem applyPendingReconfigure_induction (h : motive node) (request : Option Reconfigure) :
    motive (applyPendingReconfigure node request) := by
  cases request with
  | none => exact h
  | some request =>
      rw [applyPendingReconfigure]
      split
      · exact h
      · have hchanged := restartWith_induction hstep h request.changed
        dsimp only
        split
        · exact hchanged
        · have hrestored := restartWith_induction hstep hchanged request.restored
          split
          · exact hrestored
          · exact hstep _ _ hrestored rfl

theorem destroySystemNode_induction (h : motive node) (choices : Choices) :
    motive (destroySystemNode node choices) := by
  refine List.foldlRecOn _ _ h ?_
  intro node h state _
  split
  · exact hstep _ _ h rfl
  · exact h

end Restarts

/-- What the transitions of the subnodes and the system node's own part of a configure
keep, as they meet these choices. -/
structure Keeps (choices : Choices) (motive : SystemData RtSystem → Prop) : Prop where
  triggerSubnode : ∀ (data : SystemData RtSystem) (name : Subnode) (transition : Transition),
    motive data → motive (data.triggerSubnode choices.callbacks name transition)
  checked : ∀ data : SystemData RtSystem, motive data →
    motive { data with world := (choices.hooks.checkSystem data.world).1 }
  configured : ∀ data : SystemData RtSystem, motive data →
    motive { data with world := choices.hooks.onConfigured data.world }

section Keeps

variable {motive : SystemData RtSystem → Prop} {data : SystemData RtSystem} {choices : Choices}
  (hkeeps : Keeps choices motive)

include hkeeps

theorem Keeps.triggerAll (h : motive data) (transition : Transition) (expected : PrimaryState)
    (names : List Subnode) :
    motive (SystemData.triggerAll choices.callbacks transition expected names data).1 :=
  triggerAll_induction _ (fun data name h => hkeeps.triggerSubnode data name transition h) h
    expected names

theorem Keeps.cleanupSubnodes (h : motive data) :
    motive (data.cleanupSubnodes choices.callbacks) :=
  cleanupSubnodes_induction _ (fun data name h => hkeeps.triggerSubnode data name .cleanup h) h

theorem Keeps.onConfigure (h : motive data) :
    motive (data.onConfigure choices.callbacks choices.hooks).1 :=
  onConfigure_induction _ hkeeps.triggerSubnode hkeeps.checked hkeeps.configured h

theorem Keeps.onError (h : motive data) : motive (data.onError choices.callbacks).1 := by
  rw [SystemData.onError]
  split
  · exact h
  · exact List.foldlRecOn systemNodes _ h
      fun data h name _ => hkeeps.triggerSubnode data name .shutdown h

theorem Keeps.deactivateSubnodes (h : motive data) :
    motive (data.deactivateSubnodes choices.callbacks).1 := by
  rw [deactivateSubnodes_fst]
  exact hkeeps.triggerAll h .deactivate .inactive systemNodes

theorem Keeps.settle {result : SystemData RtSystem × CallbackReturn} (h : motive result.1)
    (transition : Transition) (state goal : PrimaryState) :
    motive (Managed.settle (SystemData.onError choices.callbacks) transition state goal
      result).data := by
  obtain ⟨data, answer⟩ := result
  cases answer with
  | success => exact h
  | failure => exact h
  | error =>
      have herror := hkeeps.onError h
      rw [Managed.settle]
      split
      · rename_i heq
        rw [heq] at herror
        exact herror
      · rename_i heq
        rw [heq] at herror
        exact herror

theorem Keeps.transition
    (hstopped : ∀ data, motive data → motive (data.stopCycles choices.hooks.clearCmdVel))
    {node : Node} (h : motive node.data) (transition : Transition) :
    motive (step node (.transition transition choices)).data ∨
      node.state = .inactive ∧ ∃ data : SystemData RtSystem, motive data ∧
        step node (.transition transition choices) = ⟨.active, { data with
          active := true, world := Deactivation.activateSupervisor data.world }⟩ := by
  obtain ⟨state, data⟩ := node
  cases hgoal : state.goal transition with
  | none =>
      rw [step_of_invalid choices hgoal]
      exact Or.inl h
  | some goal =>
      have hstep : step ⟨state, data⟩ (.transition transition choices) =
          Managed.settle (SystemData.onError choices.callbacks) transition state goal
            ((systemCallbacks choices.callbacks choices.hooks).on transition data) :=
        Managed.trigger_of_goal hgoal
      rw [hstep]
      cases transition with
      | configure => exact Or.inl (hkeeps.settle (hkeeps.onConfigure h) _ _ _)
      | cleanup =>
          have hall := hkeeps.triggerAll h .cleanup .unconfigured systemNodes
          exact Or.inl (hkeeps.settle hall _ _ _)
      | shutdown => exact Or.inl (hkeeps.settle h _ _ _)
      | deactivate =>
          exact Or.inl (hkeeps.settle (hkeeps.deactivateSubnodes (hstopped data h)) _ _ _)
      | activate =>
          obtain ⟨rfl, rfl⟩ : state = .inactive ∧ goal = .active := by
            cases state <;> cases hgoal
            exact ⟨rfl, rfl⟩
          have hall := hkeeps.triggerAll h .activate .active systemNodes
          have hon : (systemCallbacks choices.callbacks choices.hooks).on .activate data =
              data.onActivate choices.callbacks choices.hooks.onActivated := rfl
          rw [hon, SystemData.onActivate]
          dsimp only
          split
          · exact Or.inl (hkeeps.settle hall .activate _ _)
          · exact Or.inr ⟨rfl, _, hall, rfl⟩

/-- A transition while the cycles run leaves everything as it was, or stops them first. -/
theorem Keeps.transition_running {node : Node}
    (hstate : node.state = .active ∨ node.state = .finalized)
    (hstopped : motive (node.data.stopCycles choices.hooks.clearCmdVel))
    (transition : Transition) :
    (step node (.transition transition choices)).data = node.data ∨
      motive (step node (.transition transition choices)).data := by
  obtain ⟨state, data⟩ := node
  rcases hstate with rfl | rfl
  · cases transition with
    | deactivate => exact Or.inr (hkeeps.settle (hkeeps.deactivateSubnodes hstopped) _ _ _)
    | _ => exact Or.inl rfl
  · rw [step_of_invalid choices (by cases transition <;> rfl)]
    exact Or.inl rfl

end Keeps

/-- What every transition of a subnode keeps, and rests on nothing that the other
subnodes change. -/
structure Kept (motive : SystemData RtSystem → Prop) : Prop where
  triggerSubnode : ∀ (data : SystemData RtSystem) (choices : Choices) (name : Subnode)
    (transition : Transition), motive data →
      motive (data.triggerSubnode choices.callbacks name transition)
  congr : ∀ data data' : SystemData RtSystem, data'.active = data.active →
    data'.shutdownReason = data.shutdownReason → data'.subnodes = data.subnodes →
      data'.world.controller = data.world.controller → motive data → motive data'

section Kept

variable {motive : SystemData RtSystem → Prop} {data : SystemData RtSystem}

/-- What is said of the controller node alone is kept if its own transitions keep it. -/
theorem Kept.of_controller {P : Bool → Option String → PrimaryState → ControllerNode → Prop}
    (hcontroller : ∀ active reason state (world : RtSystem) (choices : Choices) transition,
      P active reason state world.controller →
        let node :=
          (Managed.mk state world).trigger (choices.callbacks .controllerNode) transition
        P active reason node.state node.data.controller) :
    Kept fun data =>
      P data.active data.shutdownReason (data.subnodes .controllerNode) data.world.controller := by
  constructor
  · intro data choices name transition h
    rw [SystemData.triggerSubnode]
    dsimp only
    by_cases hname : name = .controllerNode
    · subst hname
      rw [Function.update_self]
      exact hcontroller _ _ _ data.world choices transition h
    · obtain ⟨hsame, -⟩ :=
        trigger_other data.world choices hname (data.subnodes name) transition
      rw [Function.update_of_ne (Ne.symm hname), hsame]
      exact h
  · intro data data' hactive hreason hsubnodes hcontroller h
    rw [hactive, hreason, hsubnodes, hcontroller]
    exact h

theorem Kept.keeps (hkept : Kept motive) (choices : Choices) : Keeps choices motive where
  triggerSubnode data name transition h := hkept.triggerSubnode data choices name transition h
  checked data h := hkept.congr data _ rfl rfl rfl rfl h
  configured data h := hkept.congr data _ rfl rfl rfl rfl h

end Kept

/-- The last command published is zero, if there is one. -/
def LastZero (published : List TwistStamped) : Prop := ∀ cmd ∈ published.head?, cmd.twist = {}

theorem lastZero_of_lastIsZero {controller : ControllerNode} (h : controller.LastIsZero) :
    LastZero controller.published := by
  obtain ⟨cmd, earlier, hpublished, hzero⟩ := h
  rw [LastZero, hpublished]
  intro cmd' hcmd'
  obtain rfl := Option.some.inj hcmd'
  exact hzero

section Controller

variable {controller : ControllerNode}

theorem stopRobot_of_not_connected (h : ¬ controller.Connected) (readings : StopReadings) :
    (controller.stopRobot readings).published = controller.published := by
  have hbrake : ∀ deadline,
      (controller.brake readings.robotFrame deadline readings.loop).published =
          controller.published ∧
        ¬ (controller.brake readings.robotFrame deadline readings.loop).Connected := by
    intro deadline
    refine controller.brake_induction
      (motive := fun node => node.published = controller.published ∧ ¬ node.Connected) ?_
      ⟨rfl, h⟩ _ _ _
    rintro node header ⟨hpublished, hconnected⟩
    have hstepped : ∀ smoother, ¬ ({ node with smoother } : ControllerNode).Connected :=
      fun _ => hconnected
    refine ⟨?_, hconnected⟩
    rw [ControllerNode.publish_of_not_connected _ (hstepped _)]
    exact hpublished
  rw [stopRobot]
  split
  · rfl
  · dsimp only
    split
    · obtain ⟨hpublished, hconnected⟩ := hbrake _
      rw [ControllerNode.publish_of_not_connected _ hconnected, hpublished]
    · exact ControllerNode.publish_of_not_connected _ h _

theorem stopRobot_lastZero (h : LastZero controller.published ∨ controller.Connected)
    (readings : StopReadings) : LastZero (controller.stopRobot readings).published := by
  by_cases hconnected : controller.Connected
  · exact lastZero_of_lastIsZero
      (controller.stopRobot_of_connected hconnected readings).1.lastIsZero
  · rw [stopRobot_of_not_connected hconnected readings]
    exact h.resolve_right hconnected

theorem onConfigure_published (controller : ControllerNode) (params : ControllerParameters)
    (loading : PluginLoading) :
    (controller.onConfigure params loading).1.published = controller.published := by
  obtain ⟨hsame, -⟩ :=
    configurePlugin_sameButLimits _ (controller.startOver_limitsEnforced params) loading
  have hcreated : (controller.readConfiguration params).1.createPublisher.startOver.published =
      controller.published := by
    unfold createPublisher
    split <;> rfl
  have hpublished := hsame.published.trans hcreated
  rw [ControllerNode.onConfigure]
  dsimp only
  split
  · rfl
  · split
    · exact hpublished
    · split
      · exact hpublished
      · split <;> exact hpublished

end Controller

/-- The cycles are stopped, and so is the robot; the controller node can stop it again. -/
def HaltedIn (active : Bool) (_ : Option String) (state : PrimaryState)
    (controller : ControllerNode) : Prop :=
  active = false ∧ (state = .inactive ∨ state = .active → controller.Connected) ∧
    LastZero controller.published

def Halted (data : SystemData RtSystem) : Prop :=
  HaltedIn data.active data.shutdownReason (data.subnodes .controllerNode) data.world.controller

theorem trigger_lastZero (state : PrimaryState) {world : RtSystem}
    (h : LastZero world.controller.published) (choices : Choices) (transition : Transition) :
    LastZero ((Managed.mk state world).trigger (choices.callbacks .controllerNode)
      transition).data.controller.published := by
  apply Managed.trigger_data
    (motive := fun world' : RtSystem => LastZero world'.controller.published)
  · intro world' hzero
    cases transition with
    | configure =>
        have hpublished := onConfigure_published world'.controller choices.params choices.loading
        exact (congrArg LastZero hpublished).mpr hzero
    | deactivate => exact stopRobot_lastZero (Or.inl hzero) choices.readings
    | shutdown => exact stopRobot_lastZero (Or.inl hzero) choices.readings
    | activate => exact hzero
    | cleanup => exact hzero
  · exact fun world' h => h
  · exact h

theorem kept_halted : Kept Halted := by
  apply Kept.of_controller (P := HaltedIn)
  rintro active reason state world choices transition ⟨hactive, hconnected, hzero⟩
  exact ⟨hactive, trigger_connected hconnected choices transition,
    trigger_lastZero state hzero choices transition⟩

/-- The cycles run, and the controller node can stop the robot. -/
structure Running (data : SystemData RtSystem) : Prop where
  active : data.active = true
  subnode : data.subnodes .controllerNode = .active
  connected : data.world.controller.Connected

/-- While the cycles run, the node is Active, or was shut down from there. -/
inductive Halting : Node → Prop
  | running {state : PrimaryState} {data : SystemData RtSystem}
      (hstate : state = .active ∨ state = .finalized) (hrunning : Running data) :
      Halting ⟨state, data⟩
  | halted {state : PrimaryState} {data : SystemData RtSystem} (h : Halted data) :
      Halting ⟨state, data⟩

section Steps

variable {state : PrimaryState} {data : SystemData RtSystem}

theorem Running.stopped (h : Running data) (choices : Choices) {transition : Transition}
    (htransition : transition = .deactivate ∨ transition = .shutdown) :
    let stopped := data.triggerSubnode choices.callbacks .controllerNode transition
    (stopped.subnodes .controllerNode = .inactive → stopped.world.controller.Connected) ∧
      stopped.subnodes .controllerNode ≠ .active ∧
      LastZero stopped.world.controller.published := by
  obtain ⟨hactive, hsubnode, hconnected⟩ := h
  have hzero := stopRobot_lastZero (Or.inr hconnected) choices.readings
  rcases htransition with rfl | rfl
  · rw [triggerSubnode_of_success PrimaryState.goal_deactivate hsubnode rfl]
    dsimp only
    rw [Function.update_self]
    refine ⟨fun _ => ?_, by decide, hzero⟩
    exact (data.world.controller.stopRobot_of_connected hconnected choices.readings).2.connected
      hconnected
  · have hgoal : PrimaryState.active.goal .shutdown = some .finalized := rfl
    rw [triggerSubnode_of_success hgoal hsubnode rfl]
    dsimp only
    rw [Function.update_self]
    exact ⟨fun hinactive => PrimaryState.noConfusion hinactive, by decide, hzero⟩

theorem onDeactivate_halted (h : Halted data ∨ Running data) (choices : Choices) :
    Halted (data.onDeactivate choices.callbacks choices.hooks.clearCmdVel).1 := by
  set cleared := data.stopCycles choices.hooks.clearCmdVel
  have hstopped : Halted
      (cleared.triggerSubnode choices.callbacks .controllerNode .deactivate) := by
    rcases h with hhalted | hrunning
    · apply kept_halted.triggerSubnode
      exact kept_halted.congr data cleared hhalted.1.symm rfl rfl rfl hhalted
    · have hcleared : Running { cleared with active := true } :=
        ⟨rfl, hrunning.subnode, hrunning.connected⟩
      replace hcleared := hcleared.stopped choices (Or.inl rfl)
      obtain ⟨hconnected, hinactive, hzero⟩ := hcleared
      refine ⟨rfl, ?_, hzero⟩
      rintro (hsubnode | hsubnode)
      · exact hconnected hsubnode
      · exact absurd hsubnode hinactive
  rw [SystemData.onDeactivate, deactivateSubnodes_fst, systemNodes, SystemData.triggerAll]
  split
  · exact hstopped
  · exact (kept_halted.keeps choices).triggerAll hstopped .deactivate .inactive _

/-- Activating starts the cycles, or leaves the robot stopped. -/
theorem onActivate_halting (h : Halted data) (choices : Choices) :
    let result := data.onActivate choices.callbacks choices.hooks.onActivated
    result.2 = .failure ∧ Halted result.1 ∨ result.2 = .success ∧ Running result.1 := by
  have hall := (kept_halted.keeps choices).triggerAll h .activate .active systemNodes
  have hsubnodes : (data.onActivate choices.callbacks choices.hooks.onActivated).2 = .success →
      (data.onActivate choices.callbacks choices.hooks.onActivated).1.subnodes .controllerNode =
        .active := fun hsuccess => onActivate_subnodes hsuccess .controllerNode
  rw [SystemData.onActivate] at hsubnodes ⊢
  dsimp only at hsubnodes ⊢
  split at hsubnodes
  · rename_i hfailed
    rw [if_pos hfailed]
    exact Or.inl ⟨rfl, hall⟩
  · rename_i hactivated
    rw [if_neg hactivated]
    have hactive := hsubnodes rfl
    exact Or.inr ⟨rfl, rfl, hactive, hall.2.1 (Or.inr hactive)⟩

theorem halting_transition (h : Halting ⟨state, data⟩) (transition : Transition)
    (choices : Choices) : Halting (step ⟨state, data⟩ (.transition transition choices)) := by
  cases hgoal : state.goal transition with
  | none =>
      rw [step_of_invalid choices hgoal]
      exact h
  | some goal =>
      have hstep : step ⟨state, data⟩ (.transition transition choices) =
          Managed.settle (SystemData.onError choices.callbacks) transition state goal
            ((systemCallbacks choices.callbacks choices.hooks).on transition data) :=
        Managed.trigger_of_goal hgoal
      have hsettled : Halted ((systemCallbacks choices.callbacks choices.hooks).on
          transition data).1 → Halting (step ⟨state, data⟩ (.transition transition choices)) := by
        intro hdone
        rw [hstep]
        exact .halted ((kept_halted.keeps choices).settle hdone transition state goal)
      cases transition with
      | shutdown =>
          cases h with
          | running hstate hrunning =>
              rw [hstep]
              rcases hstate with rfl | rfl
              · obtain rfl := Option.some.inj hgoal
                exact .running (Or.inr rfl) hrunning
              · cases hgoal
          | halted hhalted => exact hsettled hhalted
      | deactivate =>
          apply hsettled
          cases h with
          | running hstate hrunning => exact onDeactivate_halted (Or.inr hrunning) choices
          | halted hhalted => exact onDeactivate_halted (Or.inl hhalted) choices
      | configure =>
          cases h with
          | running hstate hrunning => rcases hstate with rfl | rfl <;> cases hgoal
          | halted hhalted => exact hsettled ((kept_halted.keeps choices).onConfigure hhalted)
      | cleanup =>
          cases h with
          | running hstate hrunning => rcases hstate with rfl | rfl <;> cases hgoal
          | halted hhalted =>
              exact hsettled
                ((kept_halted.keeps choices).triggerAll hhalted .cleanup .unconfigured systemNodes)
      | activate =>
          cases h with
          | running hstate hrunning => rcases hstate with rfl | rfl <;> cases hgoal
          | halted hhalted =>
              rcases onActivate_halting hhalted choices with ⟨-, hdone⟩ | ⟨hsuccess, hdone⟩
              · exact hsettled hdone
              · obtain rfl : state = .inactive := by cases state <;> first | rfl | cases hgoal
                obtain rfl := Option.some.inj hgoal
                have hon : (systemCallbacks choices.callbacks choices.hooks).on .activate data =
                    data.onActivate choices.callbacks choices.hooks.onActivated := rfl
                rw [hstep, hon]
                generalize data.onActivate choices.callbacks choices.hooks.onActivated =
                  result at hsuccess hdone ⊢
                obtain ⟨final, answer⟩ := result
                obtain rfl : answer = .success := hsuccess
                exact .running (Or.inl rfl) hdone

theorem halting_step {node : Node} (h : Halting node) (e : Event) : Halting (step node e) := by
  rcases node with ⟨state, data⟩
  cases e with
  | transition transition choices => exact halting_transition h transition choices
  | rtCycle update =>
      cases h with
      | running hstate hrunning =>
          obtain ⟨hactive, hsubnodes, hworld⟩ := rtCycle_eq hrunning.active update.cycle
          refine .running hstate ⟨hactive, ?_, ?_⟩
          · rw [hsubnodes]
            exact hrunning.subnode
          · rw [hworld]
            exact Deactivation.systemCycleRt_connected hrunning.connected update.cycle
      | halted hhalted =>
          rw [step, Deactivation.rtCycle_of_stopped hhalted.1]
          exact .halted hhalted
  | cycle components recovery =>
      rw [step]
      split
      · cases h with
        | running hstate hrunning =>
            exact .running hstate ⟨hrunning.active, hrunning.subnode, hrunning.connected⟩
        | halted hhalted => exact .halted hhalted
      · exact h
  | status msg steady =>
      cases h with
      | running hstate hrunning =>
          exact .running hstate ⟨hrunning.active, hrunning.subnode, hrunning.connected⟩
      | halted hhalted => exact .halted hhalted
  | requestShutdown reason =>
      cases h with
      | running hstate hrunning =>
          exact .running hstate ⟨hrunning.active, hrunning.subnode, hrunning.connected⟩
      | halted hhalted => exact .halted hhalted
  | cleanupSubnodes choices =>
      rw [step]
      split
      · rename_i hstate
        cases h with
        | running hother hrunning =>
            dsimp only at hstate
            subst hstate
            rcases hother with hother | hother <;> cases hother
        | halted hhalted => exact .halted ((kept_halted.keeps choices).cleanupSubnodes hhalted)
      · exact h

theorem halting_foldl {node : Node} (h : Halting node) (events : List Event) :
    Halting (events.foldl step node) :=
  List.foldlRecOn events step h fun _ h e _ => halting_step h e

theorem halting_applyPendingReconfigure {node : Node} (h : Halting node)
    (request : Option Reconfigure) : Halting (applyPendingReconfigure node request) :=
  applyPendingReconfigure_induction (motive := Halting) (fun _ e h _ => halting_step h e) h request

theorem halting_destroySystemNode {node : Node} (h : Halting node) (choices : Choices) :
    Halting (destroySystemNode node choices) :=
  destroySystemNode_induction (motive := Halting) (fun _ e h _ => halting_step h e) h choices

theorem destroySubnode_kept {motive : SystemData RtSystem → Prop} (hkept : Kept motive)
    (h : motive data) (choices : Choices) (name : Subnode) :
    motive (destroySubnode choices data name) := by
  refine List.foldlRecOn _ _ h ?_
  intro data h state _
  split
  · exact hkept.triggerSubnode data choices name .shutdown h
  · exact h

theorem destroySubnode_running (h : Running data) (choices : Choices) {name : Subnode}
    (hname : name ≠ .controllerNode) : Running (destroySubnode choices data name) := by
  refine List.foldlRecOn _ _ h ?_
  rintro data ⟨hactive, hsubnode, hconnected⟩ state -
  split
  · obtain ⟨hsame, -⟩ := trigger_other data.world choices hname (data.subnodes name) .shutdown
    refine ⟨hactive, ?_, ?_⟩
    · rw [triggerSubnode_subnodes_of_ne _ _ (Ne.symm hname)]
      exact hsubnode
    · rw [SystemData.triggerSubnode]
      dsimp only
      rw [hsame]
      exact hconnected
  · exact ⟨hactive, hsubnode, hconnected⟩

theorem destroySubnode_stopped (h : Running data) (choices : Choices) :
    LastZero (destroySubnode choices data .controllerNode).world.controller.published := by
  have hfinalized : (data.triggerSubnode choices.callbacks .controllerNode
      .shutdown).subnodes .controllerNode = .finalized := by
    have hgoal : PrimaryState.active.goal .shutdown = some .finalized := rfl
    rw [triggerSubnode_of_success hgoal h.subnode rfl]
    dsimp only
    rw [Function.update_self]
  rw [destroySubnode]
  simp only [List.foldl_cons, List.foldl_nil, h.subnode, hfinalized, if_true, reduceCtorEq,
    if_false]
  exact (h.stopped choices (Or.inr rfl)).2.2

theorem destroySubnodes_lastZero (h : Halted data ∨ Running data) (choices : Choices) :
    LastZero
      (destructionOrder.foldl (destroySubnode choices) data).world.controller.published := by
  rcases h with hhalted | hrunning
  · have hall : Halted (destructionOrder.foldl (destroySubnode choices) data) := by
      refine List.foldlRecOn (motive := Halted) destructionOrder _ hhalted ?_
      intro data h name _
      exact destroySubnode_kept kept_halted h choices name
    exact hall.2.2
  · have horder : destructionOrder = [.recoveryNode, .sensorsNode, .plannerNode,
      .mapsManagerNode, .localizerNode] ++ [.controllerNode] := rfl
    rw [horder, List.foldl_append, List.foldl_cons, List.foldl_nil]
    refine destroySubnode_stopped ?_ choices
    refine List.foldlRecOn (motive := Running) _ _ hrunning ?_
    intro data h name hname
    refine destroySubnode_running h choices ?_
    rintro rfl
    revert hname
    decide

/-- Destroying the nodes stops the robot, whatever state they are in. -/
theorem destroy_lastZero {node : Node} (h : Halting node) (choices : Choices) :
    LastZero (destroy node choices).data.world.controller.published := by
  have hsystem := halting_destroySystemNode h choices
  have hdata : Halted (destroySystemNode node choices).data ∨
      Running (destroySystemNode node choices).data := by
    generalize destroySystemNode node choices = system at hsystem ⊢
    cases hsystem with
    | running hstate hrunning => exact Or.inr hrunning
    | halted hhalted => exact Or.inl hhalted
  rw [destroy]
  dsimp only
  exact destroySubnodes_lastZero hdata choices

end Steps

theorem halting_constructed : Halting constructed := by
  refine .halted ⟨rfl, ?_, ?_⟩
  · rintro (h | h) <;> cases h
  · intro cmd hcmd
    cases hcmd

/-- Nothing but zero was ever published, and the smoother is at rest. -/
structure AtStandstill (controller : ControllerNode) : Prop where
  limitsEnforced : controller.LimitsEnforced
  current : controller.smoother.current = {}
  published : ∀ cmd ∈ controller.published, cmd.twist = {}

section Standstill

variable {controller : ControllerNode}

theorem AtStandstill.publish (h : AtStandstill controller) {cmd : TwistStamped}
    (hcmd : cmd.twist = {}) : ∀ sent ∈ (controller.publish cmd).published, sent.twist = {} := by
  intro sent hsent
  by_cases hconnected : controller.Connected
  · rw [controller.publish_published hconnected] at hsent
    rcases List.mem_cons.mp hsent with rfl | hsent
    · exact hcmd
    · exact h.published sent hsent
  · rw [ControllerNode.publish_of_not_connected _ hconnected] at hsent
    exact h.published sent hsent

theorem AtStandstill.stopRobot (h : AtStandstill controller) (readings : StopReadings) :
    AtStandstill (controller.stopRobot readings) := by
  refine ⟨?_, ?_, ?_⟩
  · exact (controller.stopRobot_sameLimits readings).limitsEnforced h.limitsEnforced
  · rw [ControllerNode.stopRobot]
    split
    · exact h.current
    · rfl
  · -- At rest there is nothing to brake: only the exact zero is sent.
    rw [ControllerNode.stopRobot]
    split
    · exact h.published
    · dsimp only
      split
      · rename_i hvalid
        obtain ⟨e, he⟩ := invalidRobotLimits_eq_empty_iff.mp hvalid
        have hreached := reached_of_zero (h.limitsEnforced.trans he) h.current
        rw [brake_of_reached hreached]
        exact h.publish rfl
      · exact h.publish rfl

theorem AtStandstill.onConfigure (h : AtStandstill controller) (params : ControllerParameters)
    (loading : PluginLoading) : AtStandstill (controller.onConfigure params loading).1 := by
  have hpublished := onConfigure_published controller params loading
  obtain ⟨hsame, hlimits⟩ :=
    configurePlugin_sameButLimits _ (controller.startOver_limitsEnforced params) loading
  have hcurrent := hsame.current
  refine ⟨?_, ?_, ?_⟩
  · rw [ControllerNode.onConfigure]
    dsimp only
    split
    · rfl
    · split
      · exact hlimits
      · split
        · exact hlimits
        · split <;> exact hlimits
  · rw [ControllerNode.onConfigure]
    dsimp only
    split
    · exact h.current
    · split
      · exact hcurrent
      · split
        · exact hcurrent
        · split <;> exact hcurrent
  · rw [hpublished]
    exact h.published

theorem kept_standstill :
    Kept fun data : SystemData RtSystem => AtStandstill data.world.controller := by
  apply Kept.of_controller (P := fun _ _ _ controller => AtStandstill controller)
  intro active reason state world choices transition h
  apply Managed.trigger_data (motive := fun world' : RtSystem => AtStandstill world'.controller)
  · intro world' h
    cases transition with
    | configure => exact h.onConfigure choices.params choices.loading
    | deactivate => exact h.stopRobot choices.readings
    | shutdown =>
        have hstopped := h.stopRobot choices.readings
        exact ⟨hstopped.limitsEnforced, hstopped.current, hstopped.published⟩
    | activate => exact h
    | cleanup => exact ⟨h.limitsEnforced, h.current, h.published⟩
  · exact fun world' h => ⟨h.limitsEnforced, h.current, h.published⟩
  · exact h

theorem kept_shutdownReason (reason : Option String) :
    Kept fun data : SystemData RtSystem => data.shutdownReason = reason :=
  Kept.of_controller (P := fun _ reason' _ _ => reason' = reason)
    fun _ _ _ _ _ _ h => h

/-- What rests on neither the cycles nor their state, the transitions of the node keep. -/
theorem Kept.transition {motive : SystemData RtSystem → Prop} (hkept : Kept motive)
    (hactive : ∀ (data : SystemData RtSystem) active, motive data →
      motive { data with active := active }) {node : Node} (h : motive node.data)
    (transition : Transition) (choices : Choices) :
    motive (step node (.transition transition choices)).data := by
  have hstopped : ∀ data, motive data →
      motive (data.stopCycles choices.hooks.clearCmdVel) := by
    intro data hdata
    refine hkept.congr _ _ ?_ ?_ ?_ ?_ (hactive data false hdata) <;> rfl
  rcases (hkept.keeps choices).transition hstopped h transition with
    hsame | ⟨-, data, hdata, hactivated⟩
  · exact hsame
  · rw [hactivated]
    refine hkept.congr _ _ ?_ ?_ ?_ ?_ (hactive data true hdata) <;> rfl

end Standstill

section Requests

variable {node : Node}

theorem transition_shutdownReason (transition : Transition) (choices : Choices) :
    (step node (.transition transition choices)).data.shutdownReason =
      node.data.shutdownReason :=
  (kept_shutdownReason node.data.shutdownReason).transition (fun _ _ h => h) rfl transition choices

theorem requestShutdown_of_requested {data : SystemData RtSystem} {reason : String}
    (h : data.shutdownReason = some reason) (other : String) :
    (data.requestShutdown other).shutdownReason = some reason := by
  rw [requestShutdown, h]
  rfl

theorem step_shutdownReason {reason : String} (h : node.data.shutdownReason = some reason)
    (e : Event) : (step node e).data.shutdownReason = some reason := by
  cases e with
  | transition transition choices => exact (transition_shutdownReason transition choices).trans h
  | rtCycle update =>
      rw [step, Deactivation.rtCycle]
      split
      · dsimp only
        split
        · exact h
        · exact requestShutdown_of_requested h _
      · exact h
  | cycle components recovery =>
      rw [step]
      split <;> exact h
  | status msg steady => exact h
  | requestShutdown other => exact requestShutdown_of_requested h other
  | cleanupSubnodes choices =>
      rw [step]
      split
      · have hcleaned :=
          ((kept_shutdownReason node.data.shutdownReason).keeps choices).cleanupSubnodes rfl
        exact hcleaned.trans h
      · exact h

theorem foldl_shutdownReason (h : node.data.isShutdownRequested = true) (events : List Event) :
    (events.foldl step node).data.shutdownReason = node.data.shutdownReason := by
  obtain ⟨reason, hreason⟩ := Option.isSome_iff_exists.mp h
  rw [hreason]
  exact List.foldlRecOn (motive := fun node : Node => node.data.shutdownReason = some reason)
    events step hreason fun _ h e _ => step_shutdownReason h e

theorem requested_foldl (h : node.data.isShutdownRequested = true) (events : List Event) :
    (events.foldl step node).data.isShutdownRequested = true := by
  rw [isShutdownRequested, foldl_shutdownReason h]
  exact h

theorem destroy_shutdownReason (choices : Choices) :
    (destroy node choices).data.shutdownReason = node.data.shutdownReason := by
  have hsystem : (destroySystemNode node choices).data.shutdownReason =
      node.data.shutdownReason := by
    refine List.foldlRecOn
      (motive := fun node' : Node => node'.data.shutdownReason = node.data.shutdownReason)
      _ _ rfl ?_
    intro node' h state _
    split
    · rw [transition_shutdownReason, h]
    · exact h
  rw [destroy]
  refine List.foldlRecOn
    (motive := fun data : SystemData RtSystem => data.shutdownReason = node.data.shutdownReason)
    _ _ hsystem ?_
  intro data h name _
  exact destroySubnode_kept (kept_shutdownReason _) h choices name

theorem standstill_step (h : AtStandstill node.data.world.controller) {e : Event}
    (he : moves e = false) : AtStandstill (step node e).data.world.controller := by
  cases e with
  | rtCycle update => cases he
  | transition transition choices => exact kept_standstill.transition (fun _ _ h => h) h _ _
  | cycle components recovery =>
      rw [step]
      split <;> exact h
  | status msg steady => exact h
  | requestShutdown reason => exact h
  | cleanupSubnodes choices =>
      rw [step]
      split
      · have hcleaned := (kept_standstill.keeps choices).cleanupSubnodes h
        exact hcleaned
      · exact h

theorem standstill_destroy (h : AtStandstill node.data.world.controller) (choices : Choices) :
    AtStandstill (destroy node choices).data.world.controller := by
  have hsystem := destroySystemNode_induction
    (motive := fun node : Node => AtStandstill node.data.world.controller)
    (fun _ _ h he => standstill_step h he) h choices
  rw [destroy]
  dsimp only
  refine List.foldlRecOn
    (motive := fun data : SystemData RtSystem => AtStandstill data.world.controller)
    _ _ hsystem ?_
  intro data h name _
  exact destroySubnode_kept kept_standstill h choices name

end Requests

end EasyNav.RobotAtExit
