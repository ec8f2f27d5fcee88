import EasyNav.Lifecycle
import EasyNav.MissionServer
import EasyNav.Runs

namespace EasyNav.MissionHold

open EasyNav.DoubleArithmetic
open EasyNav.NavigationState
open EasyNav.MissionServer
open EasyNav.Lifecycle
open EasyNav.Runs

/-- What a recovery system may ask of the mission: the part of `SystemActions` that acts
on the goal manager. -/
inductive Action where
  | abortMission (reason : String) (now : Time)
  | holdMissionProgress (hold : Bool)

/-- A call of a recovery system: what it asks for, and whether it ends with an exception
(a `std::exception`: nothing else is caught anywhere). -/
structure PluginCall where
  actions : List Action := []
  throws : Bool := false

/-- A recovery system, and whether it has been handed the `SystemActions`. -/
structure RecoveryManager where
  systemActions : Bool

/-- What the node of the recovery system and the system node have. -/
structure RecoveryData where
  manager : Option RecoveryManager := none
  systemActions : Bool := false
  goalManager : Option GoalManager := none

namespace RecoveryData

def abortMission (data : RecoveryData) (reason : String) (now : Time) : RecoveryData :=
  { data with
    goalManager := data.goalManager.map fun gm =>
      if gm.state = .active then (gm.setError reason now).1 else gm }

def holdMissionProgress (data : RecoveryData) (hold : Bool) : RecoveryData :=
  { data with goalManager := data.goalManager.map fun gm => gm.setProgressHeld hold }

def act (data : RecoveryData) : Action → RecoveryData
  | .abortMission reason now => data.abortMission reason now
  | .holdMissionProgress hold => data.holdMissionProgress hold

/-- Without a system, nothing can be asked for. -/
def perform (data : RecoveryData) (manager : RecoveryManager) (actions : List Action) :
    RecoveryData :=
  if manager.systemActions then actions.foldl act data else data

/-- A recovery system that goes away cannot release a hold it left. -/
def setManager (data : RecoveryData) (manager : Option RecoveryManager) : RecoveryData :=
  let released := data.manager.isSome && manager.isNone
  let data := { data with manager := manager }
  if released && data.systemActions then data.holdMissionProgress false else data

/-- `created` tells whether the plugin could be loaded. -/
def onConfigure (data : RecoveryData) (created : Bool) (initialization : PluginCall) :
    RecoveryData × CallbackReturn :=
  if !created then (data, .failure)
  else
    let manager : RecoveryManager := { systemActions := data.systemActions }
    let data := data.perform manager initialization.actions
    if initialization.throws then (data, .failure) else (data.setManager (some manager), .success)

/-- The activation or deactivation, forwarded to the recovery system. -/
def forward (data : RecoveryData) (call : PluginCall) : RecoveryData × CallbackReturn :=
  match data.manager with
  | none => (data, .success)
  | some manager =>
      (data.perform manager call.actions, if call.throws then .error else .success)

def onActivate (data : RecoveryData) (call : PluginCall) : RecoveryData × CallbackReturn :=
  data.forward call

def onDeactivate (data : RecoveryData) (call : PluginCall) : RecoveryData × CallbackReturn :=
  data.forward call

def onCleanup (data : RecoveryData) : RecoveryData × CallbackReturn :=
  (data.setManager none, .success)

def onShutdown (data : RecoveryData) : RecoveryData × CallbackReturn :=
  (data.setManager none, .success)

def onError (data : RecoveryData) : RecoveryData × CallbackReturn :=
  (data.setManager none, .success)

/-- A cycle, RT or not: an exception of the recovery system goes no further. -/
def runCycle (data : RecoveryData) (call : PluginCall) : RecoveryData :=
  match data.manager with
  | none => data
  | some manager => data.perform manager call.actions

def cycle (data : RecoveryData) (update : PluginCall) : RecoveryData := data.runCycle update

def cycleRt (data : RecoveryData) (updateRt : PluginCall) : RecoveryData := data.runCycle updateRt

def setSystemActions (data : RecoveryData) : RecoveryData :=
  { data with
    systemActions := true
    manager := data.manager.map fun _ => { systemActions := true } }

/-- The system node, once its subnodes are configured: the mission outlives a
reconfiguration. -/
def configureGoalManager (data : RecoveryData) (params : GoalParameters) (nav : NavState) :
    RecoveryData :=
  { data with
    goalManager := some (match data.goalManager with
      | none => (GoalManager.create params nav).1
      | some gm => (gm.readParameters params nav).1) }

def mission (data : RecoveryData) (getYaw : Quaternion → Double) (e : MissionServer.Event) :
    RecoveryData :=
  { data with goalManager := data.goalManager.map fun gm => (gm.handle getYaw e).1 }

end RecoveryData

open RecoveryData

def recoveryCallbacks (created : Bool) (call : PluginCall) : Callbacks RecoveryData where
  on
    | .configure => fun data => data.onConfigure created call
    | .activate => fun data => data.onActivate call
    | .deactivate => fun data => data.onDeactivate call
    | .cleanup => onCleanup
    | .shutdown => onShutdown
  onError := onError

/-- Only the recovery system holds the progress of the mission. -/
inductive Event where
  | trigger (transition : Transition) (created : Bool) (call : PluginCall)
  | cycle (update : PluginCall)
  | cycleRt (updateRt : PluginCall)
  | setSystemActions
  | configureGoalManager (params : GoalParameters) (nav : NavState)
  | mission (e : MissionServer.Event)
      (notHold : ∀ held, e ≠ .operation (.setProgressHeld held))

def step (getYaw : Quaternion → Double) (node : Managed RecoveryData) :
    Event → Managed RecoveryData
  | .trigger transition created call => node.trigger (recoveryCallbacks created call) transition
  | .cycle update => { node with data := node.data.cycle update }
  | .cycleRt updateRt => { node with data := node.data.cycleRt updateRt }
  | .setSystemActions => { node with data := node.data.setSystemActions }
  | .configureGoalManager params nav =>
      { node with data := node.data.configureGoalManager params nav }
  | .mission e _ => { node with data := node.data.mission getYaw e }

def Start (node : Managed RecoveryData) : Prop := node = ⟨.unconfigured, {}⟩

def RecoveryData.Held (data : RecoveryData) : Prop :=
  ∃ gm, data.goalManager = some gm ∧ gm.progressHeld = true

/-- It is held, and nobody is there to release it. -/
def RecoveryData.Alone (data : RecoveryData) : Prop := data.manager = none ∧ data.Held

def lastHold : List Action → Option Bool
  | [] => none
  | .holdMissionProgress hold :: actions => some ((lastHold actions).getD hold)
  | .abortMission _ _ :: actions => lastHold actions

/-- A recovery system whose initialization fails leaves the mission held, if there is a
goal manager yet. -/
def FailsHolding (node : Managed RecoveryData) : Event → Prop
  | .trigger .configure true initialization =>
      node.state = .unconfigured ∧ initialization.throws = true ∧
        lastHold initialization.actions = some true ∧ node.data.systemActions = true ∧
        node.data.goalManager ≠ none
  | _ => False

section Actions

variable {data : RecoveryData} {manager : RecoveryManager} {actions : List Action}

@[simp] theorem act_manager (data : RecoveryData) (action : Action) :
    (data.act action).manager = data.manager := by
  cases action <;> rfl

@[simp] theorem act_systemActions (data : RecoveryData) (action : Action) :
    (data.act action).systemActions = data.systemActions := by
  cases action <;> rfl

@[simp] theorem act_goalManager_eq_none (data : RecoveryData) (action : Action) :
    (data.act action).goalManager = none ↔ data.goalManager = none := by
  cases action with
  | abortMission reason now => simp [act, abortMission]
  | holdMissionProgress hold => simp [act, holdMissionProgress]

theorem held_holdMissionProgress (data : RecoveryData) (hold : Bool) :
    (data.holdMissionProgress hold).Held ↔ hold = true ∧ data.goalManager ≠ none := by
  unfold holdMissionProgress Held
  cases data.goalManager with
  | none => simp
  | some gm => simp [GoalManager.setProgressHeld]

theorem held_abortMission (data : RecoveryData) (reason : String) (now : Time) :
    (data.abortMission reason now).Held ↔ data.Held := by
  unfold abortMission Held
  cases data.goalManager with
  | none => simp
  | some gm =>
      simp only [Option.map_some, Option.some.injEq, exists_eq_left']
      split <;> rfl

/-- Of all that a recovery system asks for, the last hold or release decides. -/
theorem held_foldl (data : RecoveryData) (actions : List Action) :
    (actions.foldl act data).Held ↔
      lastHold actions = some true ∧ data.goalManager ≠ none ∨
        lastHold actions = none ∧ data.Held := by
  induction actions generalizing data with
  | nil => simp [lastHold]
  | cons action actions ih =>
      rw [List.foldl_cons, ih, ne_eq, act_goalManager_eq_none]
      cases action with
      | abortMission reason now => rw [act, held_abortMission, lastHold]
      | holdMissionProgress hold =>
          rw [act, held_holdMissionProgress, lastHold]
          cases lastHold actions with
          | none => simp
          | some last => simp

theorem foldl_manager (data : RecoveryData) (actions : List Action) :
    (actions.foldl act data).manager = data.manager ∧
      (actions.foldl act data).systemActions = data.systemActions := by
  induction actions generalizing data with
  | nil => exact ⟨rfl, rfl⟩
  | cons action actions ih =>
      obtain ⟨hmanager, hactions⟩ := ih (data.act action)
      rw [List.foldl_cons]
      exact ⟨hmanager.trans (act_manager _ _), hactions.trans (act_systemActions _ _)⟩

theorem perform_manager : (data.perform manager actions).manager = data.manager := by
  unfold perform
  split
  · exact (foldl_manager data actions).1
  · rfl

theorem perform_systemActions :
    (data.perform manager actions).systemActions = data.systemActions := by
  unfold perform
  split
  · exact (foldl_manager data actions).2
  · rfl

theorem setManager_manager (data : RecoveryData) (manager : Option RecoveryManager) :
    (data.setManager manager).manager = manager ∧
      (data.setManager manager).systemActions = data.systemActions := by
  unfold setManager
  dsimp only
  split <;> exact ⟨rfl, rfl⟩

end Actions

/-- What the data keeps, whatever the state of the node: nobody holds the mission without
the `SystemActions`. -/
structure Handed (data : RecoveryData) : Prop where
  handed : ∀ manager, data.manager = some manager → manager.systemActions = data.systemActions
  held : data.systemActions = false → ¬ data.Held

section Callbacks

variable {data : RecoveryData}

theorem Handed.perform (h : Handed data) (manager : RecoveryManager)
    (hmanager : manager.systemActions = data.systemActions) (actions : List Action) :
    Handed (data.perform manager actions) := by
  refine ⟨?_, ?_⟩
  · rw [perform_manager, perform_systemActions]
    exact h.handed
  · rw [perform_systemActions]
    intro hactions
    unfold RecoveryData.perform
    rw [if_neg (by rw [hmanager, hactions]; decide)]
    exact h.held hactions

/-- The hold that a recovery system left is released when it goes away. -/
theorem Handed.release (h : Handed data) :
    Handed (data.setManager none) ∧ ((data.setManager none).Held ↔ data.Alone) := by
  obtain ⟨hmanager, hactions⟩ := setManager_manager data none
  have hheld : (data.setManager none).Held ↔ data.Alone := by
    unfold setManager Alone
    cases hloaded : data.manager with
    | none => exact (and_iff_right rfl).symm
    | some manager =>
        cases hsystem : data.systemActions with
        | true => simp [held_holdMissionProgress]
        | false => exact iff_of_false (h.held hsystem) (by simp)
  refine ⟨⟨?_, ?_⟩, hheld⟩
  · rw [hmanager]
    exact fun _ hnone => absurd hnone (by simp)
  · rw [hactions, hheld]
    exact fun hsystem halone => h.held hsystem halone.2

/-- Loading a recovery system leaves the mission held and nobody to release it exactly if
the initialization fails after a hold. -/
theorem onConfigure_alone (hmanager : data.manager = none)
    (hreleased : ¬ data.Held) (initialization : PluginCall) :
    (data.onConfigure true initialization).1.Alone ↔
      initialization.throws = true ∧ lastHold initialization.actions = some true ∧
        data.systemActions = true ∧ data.goalManager ≠ none := by
  unfold onConfigure
  dsimp only
  cases initialization.throws with
  | false => simp [Alone, setManager_manager]
  | true =>
      simp only [Bool.not_true, Bool.false_eq_true, if_false, if_true, true_and]
      unfold Alone perform
      cases data.systemActions with
      | false => simp [hreleased]
      | true => simp [foldl_manager, hmanager, held_foldl, hreleased]

theorem Handed.load (h : Handed data) (manager : RecoveryManager)
    (hmanager : manager.systemActions = data.systemActions) :
    Handed (data.setManager (some manager)) := by
  unfold setManager
  rw [Option.isNone_some, Bool.and_false]
  refine ⟨?_, h.held⟩
  rintro _ ⟨⟩
  exact hmanager

theorem onConfigure_handed (h : Handed data) (created : Bool) (initialization : PluginCall) :
    Handed (data.onConfigure created initialization).1 := by
  have hdone := h.perform ⟨data.systemActions⟩ rfl initialization.actions
  unfold onConfigure
  split
  · exact h
  · dsimp only
    split
    · exact hdone
    · exact hdone.load _ perform_systemActions.symm

theorem onConfigure_answer (data : RecoveryData) (initialization : PluginCall) :
    ((data.onConfigure true initialization).2 = .failure ∧
        (data.onConfigure true initialization).1.manager = data.manager) ∨
      (data.onConfigure true initialization).2 = .success := by
  unfold onConfigure
  dsimp only
  cases initialization.throws with
  | false => exact Or.inr rfl
  | true => exact Or.inl ⟨rfl, perform_manager⟩

theorem forward_handed (h : Handed data) (call : PluginCall) :
    Handed (data.forward call).1 ∧ (data.forward call).1.manager = data.manager ∧
      (data.manager = none → data.forward call = (data, .success)) ∧
      ((data.forward call).2 = .success ∨ (data.forward call).2 = .error) := by
  unfold forward
  split
  · rename_i hnone
    exact ⟨h, rfl, fun _ => rfl, Or.inl rfl⟩
  · rename_i manager hmanager
    refine ⟨h.perform manager (h.handed manager hmanager) call.actions, perform_manager, ?_, ?_⟩
    · intro hnone
      rw [hnone] at hmanager
      contradiction
    · dsimp only
      split
      · exact Or.inr rfl
      · exact Or.inl rfl

theorem runCycle_handed (h : Handed data) (call : PluginCall) :
    Handed (data.runCycle call) ∧ (data.runCycle call).manager = data.manager ∧
      (data.manager = none → data.runCycle call = data) := by
  unfold runCycle
  split
  · exact ⟨h, rfl, fun _ => rfl⟩
  · rename_i manager hmanager
    refine ⟨h.perform manager (h.handed manager hmanager) call.actions, perform_manager, ?_⟩
    intro hnone
    rw [hnone] at hmanager
    contradiction

end Callbacks

/-- What every state of a run keeps: nothing is loaded in a node that is not configured. -/
structure Hosted (node : Managed RecoveryData) : Prop where
  manager : node.state = .unconfigured → node.data.manager = none
  handed : Handed node.data

section Steps

variable {getYaw : Quaternion → Double} {node : Managed RecoveryData}

theorem forward_settles (h : Handed node.data) (halone : ¬ node.data.Alone)
    {transition : Transition} {goal : PrimaryState} (hgoal : goal ≠ .unconfigured)
    (call : PluginCall) :
    let settled := Managed.settle onError transition node.state goal (node.data.forward call)
    Hosted settled ∧ ¬ settled.data.Alone := by
  obtain ⟨hhanded, hmanager, hnone, hanswer⟩ := forward_handed h call
  obtain ⟨hreleased, hheld⟩ := hhanded.release
  dsimp only
  generalize hforward : node.data.forward call = forwarded at *
  obtain ⟨data, answer⟩ := forwarded
  dsimp only at hhanded hmanager hanswer hreleased hheld
  rcases hanswer with rfl | rfl
  · refine ⟨⟨fun hstate => absurd hstate hgoal, hhanded⟩, ?_⟩
    rintro ⟨hunloaded, hdata⟩
    have hsame := hnone (hmanager.symm.trans hunloaded)
    obtain rfl : data = node.data := congrArg Prod.fst hsame
    exact halone ⟨hunloaded, hdata⟩
  · rw [Managed.settle_of_error (show onError data = (data.setManager none, .success) from rfl)]
    refine ⟨⟨fun _ => (setManager_manager data none).1, hreleased⟩, ?_⟩
    rintro ⟨-, hdata⟩
    obtain ⟨hunloaded, hdata⟩ := hheld.mp hdata
    have hsame := hnone (hmanager.symm.trans hunloaded)
    obtain rfl : data = node.data := congrArg Prod.fst hsame
    exact halone ⟨hunloaded, hdata⟩

theorem release_settles (h : Handed node.data) (halone : ¬ node.data.Alone)
    (state : PrimaryState) :
    Hosted ⟨state, node.data.setManager none⟩ ∧ ¬ (node.data.setManager none).Alone := by
  obtain ⟨hreleased, hheld⟩ := h.release
  refine ⟨⟨fun _ => (setManager_manager node.data none).1, hreleased⟩, ?_⟩
  exact fun hdata => halone (hheld.mp hdata.2)

theorem configure_settles (h : Hosted node) (halone : ¬ node.data.Alone) {goal : PrimaryState}
    (hgoal : node.state.goal .configure = some goal) (created : Bool) (call : PluginCall) :
    let settled := Managed.settle onError .configure node.state goal
      (node.data.onConfigure created call)
    Hosted settled ∧
      (settled.data.Alone ↔ FailsHolding node (.trigger .configure created call)) := by
  have hstate := PrimaryState.unconfigured_of_configure hgoal
  have hmanager := h.manager hstate
  have hreleased : ¬ node.data.Held := fun hheld => halone ⟨hmanager, hheld⟩
  have hhanded := onConfigure_handed h.handed created call
  cases created with
  | false => exact ⟨⟨fun _ => hmanager, h.handed⟩, iff_of_false halone not_false⟩
  | true =>
      have hheld := onConfigure_alone hmanager hreleased call
      have hfails : FailsHolding node (.trigger .configure true call) ↔
          call.throws = true ∧ lastHold call.actions = some true ∧
            node.data.systemActions = true ∧ node.data.goalManager ≠ none :=
        and_iff_right hstate
      rw [hfails]
      dsimp only
      rcases onConfigure_answer node.data call with ⟨hanswer, hsame⟩ | hanswer
      · rw [← hsame] at hmanager
        generalize node.data.onConfigure true call = configured at *
        obtain ⟨data, answer⟩ := configured
        obtain rfl : answer = .failure := hanswer
        exact ⟨⟨fun _ => hmanager, hhanded⟩, hheld⟩
      · generalize node.data.onConfigure true call = configured at *
        obtain ⟨data, answer⟩ := configured
        obtain rfl : answer = .success := hanswer
        exact ⟨⟨fun hback => absurd hback (PrimaryState.goal_ne_unconfigured hgoal (by decide)),
          hhanded⟩, hheld⟩

theorem trigger_hosted (h : Hosted node) (halone : ¬ node.data.Alone) (transition : Transition)
    (created : Bool) (call : PluginCall) :
    Hosted (node.trigger (recoveryCallbacks created call) transition) ∧
      ((node.trigger (recoveryCallbacks created call) transition).data.Alone ↔
        FailsHolding node (.trigger transition created call)) := by
  cases hgoal : node.state.goal transition with
  | none =>
      rw [Managed.trigger_of_invalid hgoal]
      refine ⟨h, iff_of_false halone ?_⟩
      cases transition with
      | configure =>
          cases created with
          | false => exact not_false
          | true =>
              rintro ⟨hstate, -⟩
              rw [hstate] at hgoal
              contradiction
      | _ => exact not_false
  | some goal =>
      rw [Managed.trigger_of_goal hgoal]
      cases transition with
      | configure => exact configure_settles h halone hgoal created call
      | activate | deactivate =>
          obtain ⟨hhosted, hnot⟩ := forward_settles h.handed halone
            (PrimaryState.goal_ne_unconfigured hgoal (by decide)) call
          exact ⟨hhosted, iff_of_false hnot not_false⟩
      | cleanup | shutdown =>
          obtain ⟨hhosted, hnot⟩ := release_settles h.handed halone goal
          exact ⟨hhosted, iff_of_false hnot not_false⟩

theorem runCycle_hosted (h : Hosted node) (halone : ¬ node.data.Alone) (call : PluginCall) :
    Hosted { node with data := node.data.runCycle call } ∧ ¬ (node.data.runCycle call).Alone := by
  obtain ⟨hhanded, hmanager, hnone⟩ := runCycle_handed h.handed call
  refine ⟨⟨fun hstate => hmanager.trans (h.manager hstate), hhanded⟩, ?_⟩
  rintro ⟨hunloaded, hheld⟩
  have hunloaded := hmanager.symm.trans hunloaded
  rw [hnone hunloaded] at hheld
  exact halone ⟨hunloaded, hheld⟩

theorem goalManager_hosted (h : Hosted node) (halone : ¬ node.data.Alone)
    {goalManager : Option GoalManager}
    (hheld : ∀ gm, goalManager = some gm → gm.progressHeld = true → node.data.Held) :
    Hosted { node with data := { node.data with goalManager := goalManager } } ∧
      ¬ ({ node.data with goalManager := goalManager } : RecoveryData).Alone := by
  refine ⟨⟨h.manager, h.handed.handed, ?_⟩, ?_⟩
  · rintro hactions ⟨gm, hgm, hprogress⟩
    exact h.handed.held hactions (hheld gm hgm hprogress)
  · rintro ⟨hmanager, gm, hgm, hprogress⟩
    exact halone ⟨hmanager, hheld gm hgm hprogress⟩

theorem setSystemActions_hosted (h : Hosted node) (halone : ¬ node.data.Alone) :
    Hosted (step getYaw node .setSystemActions) ∧
      ¬ (step getYaw node .setSystemActions).data.Alone := by
  refine ⟨⟨?_, ?_, ?_⟩, ?_⟩
  · intro hstate
    exact Option.map_eq_none_iff.mpr (h.manager hstate)
  · intro manager hmanager
    obtain ⟨_, _, rfl⟩ := Option.map_eq_some_iff.mp hmanager
    rfl
  · intro hactions
    contradiction
  · rintro ⟨hmanager, hheld⟩
    exact halone ⟨Option.map_eq_none_iff.mp hmanager, hheld⟩

theorem step_hosted (h : Hosted node) (halone : ¬ node.data.Alone) (e : Event) :
    Hosted (step getYaw node e) ∧ ((step getYaw node e).data.Alone ↔ FailsHolding node e) := by
  cases e with
  | trigger transition created call => exact trigger_hosted h halone transition created call
  | cycle update =>
      exact (runCycle_hosted h halone update).imp_right fun hnot => iff_of_false hnot not_false
  | cycleRt updateRt =>
      exact (runCycle_hosted h halone updateRt).imp_right fun hnot => iff_of_false hnot not_false
  | setSystemActions =>
      exact (setSystemActions_hosted h halone).imp_right fun hnot => iff_of_false hnot not_false
  | configureGoalManager params nav =>
      refine (goalManager_hosted h halone ?_).imp_right fun hnot => iff_of_false hnot not_false
      rintro gm ⟨⟩ hheld
      cases hgoalManager : node.data.goalManager with
      | none =>
          rw [hgoalManager] at hheld
          contradiction
      | some gm =>
          rw [hgoalManager] at hheld
          exact ⟨gm, hgoalManager, hheld⟩
  | mission e notHold =>
      refine (goalManager_hosted h halone ?_).imp_right fun hnot => iff_of_false hnot not_false
      intro gm hgm hheld
      obtain ⟨gm', hgm', rfl⟩ := Option.map_eq_some_iff.mp hgm
      rw [gm'.handle_progressHeld getYaw notHold] at hheld
      exact ⟨gm', hgm', hheld⟩

end Steps

/-- The mission is never on hold without a recovery system exactly if no initialization
fails after a hold. -/
theorem never_alone_iff {getYaw : Quaternion → Double} {node : Managed RecoveryData}
    {past : List (Managed RecoveryData × Event)} (hrun : Run (step getYaw) Start node past) :
    (∀ s ∈ reached node past, ¬ s.data.Alone) ↔ ∀ p ∈ past, ¬ FailsHolding p.1 p.2 := by
  apply hrun.forall_reached_iff Hosted (fun node => ¬ node.data.Alone)
    (fun node e => ¬ FailsHolding node e)
  · rintro node rfl
    refine ⟨⟨fun _ => rfl, ?_, ?_⟩, ?_⟩
    · exact fun _ hnone => absurd hnone (by simp)
    · rintro - ⟨gm, hnone, -⟩
      contradiction
    · rintro ⟨-, gm, hnone, -⟩
      contradiction
  · intro node e h halone
    have hnext : Hosted (step getYaw node e) ∧
        ((step getYaw node e).data.Alone ↔ FailsHolding node e) := step_hosted h halone e
    exact ⟨fun _ => hnext.1, not_congr hnext.2⟩

def configuring : List Event :=
  [.setSystemActions, .trigger .configure true {}, .configureGoalManager {} {}]

def holding : PluginCall := { actions := [.holdMissionProgress true] }

def unloading : List Event :=
  configuring ++ [.trigger .activate true {}, .cycle holding, .trigger .deactivate true {},
    .trigger .cleanup true {}, .trigger .configure true { throws := true }]

def failing : List Event :=
  configuring ++ [.trigger .cleanup true {},
    .trigger .configure true { holding with throws := true }]

def exampleStep : Managed RecoveryData → Event → Managed RecoveryData := step fun _ => 0

theorem never_alone_iff_unloading :
    let node := unloading.foldl exampleStep ⟨.unconfigured, {}⟩
    node.data.manager.isNone ∧ node.data.goalManager.isSome ∧
      ∀ s ∈ reached node (history exampleStep ⟨.unconfigured, {}⟩ unloading []),
        ¬ s.data.Alone := by
  have hstart : Run exampleStep Start ⟨.unconfigured, {}⟩ [] := .init rfl
  refine ⟨by decide +kernel, by decide +kernel,
    (never_alone_iff (hstart.foldl unloading)).mpr ?_⟩
  simp [unloading, configuring, history, FailsHolding, lastHold]

/-- A recovery system whose initialization holds the mission and then fails is not there
to release it. -/
theorem alone_after_failure :
    ∃ node past, Run exampleStep Start node past ∧ node.data.Alone := by
  have hstart : Run exampleStep Start ⟨.unconfigured, {}⟩ [] := .init rfl
  exact ⟨_, _, hstart.foldl failing, rfl, _, rfl, rfl⟩

end EasyNav.MissionHold
