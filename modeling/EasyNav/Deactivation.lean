import EasyNav.ProtectiveStop
import EasyNav.SystemLifecycle

namespace EasyNav.Deactivation

open EasyNav.ExtendedArithmetic
open EasyNav.ExtendedArithmetic.Extended
open EasyNav.DoubleArithmetic
open EasyNav.NavigationState
open EasyNav.CommandPublication
open EasyNav.SafetySupervision
open EasyNav.ProtectiveStop
open EasyNav.Lifecycle
open EasyNav.SystemLifecycle
open EasyNav.Runs

/-- What the environment chooses in a transition: the clock readings of a stop, the
parameters and the plugin of a configure, and what the other subnodes do to the
blackboard. -/
structure Choices where
  readings : StopReadings
  params : ControllerParameters := {}
  loading : PluginLoading := {}
  others : Subnode → Transition → NavState → NavState := fun _ _ nav => nav

def setController (world : RtSystem) (result : ControllerNode × CallbackReturn) :
    RtSystem × CallbackReturn :=
  ({ world with controller := result.1 }, result.2)

def controllerCallbacks (choices : Choices) : Callbacks RtSystem where
  on transition world :=
    match transition with
    | .configure =>
        setController world (world.controller.onConfigure choices.params choices.loading)
    | .activate => (world, .success)
    | .deactivate => setController world (world.controller.onDeactivate choices.readings)
    | .cleanup => setController world world.controller.onCleanup
    | .shutdown => setController world (world.controller.onShutdown choices.readings)
  onError world := setController world world.controller.onError

/-- The subnodes' own transitions; those of the others succeed. -/
def subnodeCallbacks (choices : Choices) : Subnode → Callbacks RtSystem
  | .controllerNode => controllerCallbacks choices
  | name =>
      { on := fun transition world =>
          ({ world with nav := choices.others name transition world.nav }, .success)
        onError := fun world => (world, .success) }

/-- `SystemNode::clear_cmd_vel`. -/
def clearCmdVel (choices : Choices) (world : RtSystem) : RtSystem :=
  { world with
    nav := { world.nav with
      cmdVel := some
        { header :=
            { stamp := choices.readings.start, frameId := choices.readings.robotFrame } } } }

def activateSupervisor (world : RtSystem) : RtSystem :=
  { world with supervisor := world.supervisor.onActivate }

/-- How far the transition in progress is. -/
inductive Phase where
  | idle
  | cyclesStopped
  | subnodesDone (result : CallbackReturn)
  deriving DecidableEq

structure Interleaved where
  state : PrimaryState
  phase : Phase
  data : SystemData RtSystem

def Interleaved.controller (s : Interleaved) : ControllerNode := s.data.world.controller

inductive Event where
  | rtCycle (c : SystemCycle)
  | status (msg : SafetyStatus) (steady : Time)
  | requestShutdown (reason : String)
  | activate (choices : Choices)
  | shutdown (choices : Choices)
  | stopCycles (choices : Choices)
  | deactivateSubnodes (choices : Choices)
  | finishDeactivate (choices : Choices)

def rtCycle (data : SystemData RtSystem) (c : SystemCycle) : SystemData RtSystem :=
  if data.active then
    let (ok, supervisor, _) := data.world.supervisor.cycleRt data.world.nav c.steady c.now
    let data := if ok then data else data.requestShutdown supervisor.failure
    { data with world := systemCycleRt data.world c }
  else data

def receiveStatus (data : SystemData RtSystem) (msg : SafetyStatus) (steady : Time) :
    SystemData RtSystem :=
  { data with world := ProtectiveStop.step data.world (.status msg steady) }

/-- A transition from its result, whatever ran in between. -/
def Interleaved.finish (choices : Choices) (transition : Transition) (state goal : PrimaryState)
    (result : SystemData RtSystem × CallbackReturn) : Interleaved :=
  let node := Managed.settle (SystemData.onError (subnodeCallbacks choices)) transition state
    goal result
  { state := node.state, phase := .idle, data := node.data }

def step (s : Interleaved) : Event → Interleaved
  | .rtCycle c => { s with data := rtCycle s.data c }
  | .status msg steady => { s with data := receiveStatus s.data msg steady }
  | .requestShutdown reason => { s with data := s.data.requestShutdown reason }
  | .activate choices =>
      match s.phase, s.state.goal .activate with
      | .idle, some goal =>
          .finish choices .activate s.state goal
            (s.data.onActivate (subnodeCallbacks choices) activateSupervisor)
      | _, _ => s
  | .shutdown choices =>
      match s.phase, s.state.goal .shutdown with
      | .idle, some goal => .finish choices .shutdown s.state goal s.data.onShutdown
      | _, _ => s
  | .stopCycles choices =>
      match s.phase, s.state.goal .deactivate with
      | .idle, some _ =>
          { s with phase := .cyclesStopped, data := s.data.stopCycles (clearCmdVel choices) }
      | _, _ => s
  | .deactivateSubnodes choices =>
      match s.phase with
      | .cyclesStopped =>
          let (data, result) := s.data.deactivateSubnodes (subnodeCallbacks choices)
          { s with phase := .subnodesDone result, data := data }
      | _ => s
  | .finishDeactivate choices =>
      match s.phase with
      | .subnodesDone result =>
          .finish choices .deactivate s.state .inactive (s.data, result)
      | _ => s

/-- Everything configured and Inactive, never activated. -/
def Start (s : Interleaved) : Prop :=
  s.state = .inactive ∧ s.phase = .idle ∧ s.data.active = false ∧
    s.data.shutdownReason = none ∧ (∀ name, s.data.subnodes name = .inactive) ∧
    ∃ (unconfigured : ControllerNode) (params : ControllerParameters) (loading : PluginLoading),
      unconfigured.onConfigure params loading = (s.controller, .success)

/-- Uninterrupted, the three steps are the transition. -/
theorem finishDeactivate_eq_trigger {s : Interleaved} (hstate : s.state = .active)
    (hphase : s.phase = .idle) (choices : Choices) (hooks : SystemHooks RtSystem)
    (hclear : hooks.clearCmdVel = clearCmdVel choices) :
    let final := step (step (step s (.stopCycles choices)) (.deactivateSubnodes choices))
      (.finishDeactivate choices)
    Managed.mk final.state final.data =
      (Managed.mk s.state s.data).trigger
        (SystemData.systemCallbacks (subnodeCallbacks choices) hooks) .deactivate := by
  rcases s with ⟨state, phase, data⟩
  subst hstate hphase
  unfold Managed.trigger SystemData.systemCallbacks SystemData.onDeactivate
  rw [hclear]
  rfl

section Subnodes

variable (choices : Choices) (transition : Transition) (world : RtSystem)

theorem on_success (htransition : transition ≠ .configure) (name : Subnode) :
    ((subnodeCallbacks choices name).on transition world).2 = .success := by
  cases name <;> cases transition <;> first | rfl | exact absurd rfl htransition

end Subnodes

/-- What a run keeps in every state, once it was Active or not. -/
inductive Consistent (wasActive : Prop) : Interleaved → Prop
  | inactive {data : SystemData RtSystem} (hcycles : data.active = false)
      (hsubnodes : ∀ name, data.subnodes name = .inactive)
      (hconnected : data.world.controller.Connected)
      (hzero : wasActive → data.world.controller.LastIsZero) :
      Consistent wasActive ⟨.inactive, .idle, data⟩
  | active {data : SystemData RtSystem} (hsubnodes : ∀ name, data.subnodes name = .active)
      (hconnected : data.world.controller.Connected) :
      Consistent wasActive ⟨.active, .idle, data⟩
  | cyclesStopped {data : SystemData RtSystem} (hcycles : data.active = false)
      (hsubnodes : ∀ name, data.subnodes name = .active)
      (hconnected : data.world.controller.Connected) :
      Consistent wasActive ⟨.active, .cyclesStopped, data⟩
  | subnodesDone {data : SystemData RtSystem} {result : CallbackReturn}
      (hcycles : data.active = false) (hsubnodes : ∀ name, data.subnodes name = .inactive)
      (hconnected : data.world.controller.Connected)
      (hzero : data.world.controller.LastIsZero)
      (hresult : result = .success ∨ result = .error ∧ data.isShutdownRequested = true) :
      Consistent wasActive ⟨.active, .subnodesDone result, data⟩
  | finalized {data : SystemData RtSystem} (hcycles : data.active = false)
      (hzero : wasActive → data.world.controller.LastIsZero) :
      Consistent wasActive ⟨.finalized, .idle, data⟩

section Steps

variable {data : SystemData RtSystem}

theorem rtCycle_of_stopped (h : data.active = false) (c : SystemCycle) :
    rtCycle data c = data := by
  unfold rtCycle
  rw [h]
  rfl

theorem systemCycleRt_connected {world : RtSystem} (h : world.controller.Connected)
    (c : SystemCycle) : (systemCycleRt world c).controller.Connected :=
  ((ControllerNode.publishCmdVelRt_sameTopics _ _ _).trans
    (ControllerNode.cycleRt_sameTopics _ _ _)).connected h

theorem rtCycle_consistent {wasActive : Prop}
    (hsubnodes : ∀ name, data.subnodes name = .active)
    (hconnected : data.world.controller.Connected) (c : SystemCycle) :
    Consistent wasActive ⟨.active, .idle, rtCycle data c⟩ := by
  unfold rtCycle
  split
  · dsimp only
    refine .active ?_ (systemCycleRt_connected ?_ c)
    · split <;> exact hsubnodes
    · split <;> exact hconnected
  · exact .active hsubnodes hconnected

theorem deactivateSubnodes_consistent {wasActive : Prop} (hcycles : data.active = false)
    (hsubnodes : ∀ name, data.subnodes name = .active)
    (hconnected : data.world.controller.Connected) (choices : Choices) :
    Consistent wasActive
      ⟨.active, .subnodesDone (data.deactivateSubnodes (subnodeCallbacks choices)).2,
        (data.deactivateSubnodes (subnodeCallbacks choices)).1⟩ := by
  obtain ⟨hstopped, htopics⟩ :=
    data.world.controller.stopRobot_of_connected hconnected choices.readings
  have hconnected' := htopics.connected hconnected
  unfold SystemData.deactivateSubnodes
  rw [SystemData.triggerAll_systemNodes PrimaryState.goal_deactivate hsubnodes
    (fun name world => on_success choices .deactivate world (by decide) name)]
  dsimp only [Bool.not_true]
  rw [if_neg (by decide)]
  split
  · rename_i hrequested
    exact .subnodesDone hcycles (fun _ => rfl) hconnected' hstopped.lastIsZero
      (Or.inr ⟨rfl, hrequested⟩)
  · exact .subnodesDone hcycles (fun _ => rfl) hconnected' hstopped.lastIsZero (Or.inl rfl)

theorem onError_consistent {wasActive : Prop} (hcycles : data.active = false)
    (hsubnodes : ∀ name, data.subnodes name = .inactive)
    (hconnected : data.world.controller.Connected)
    (hrequested : data.isShutdownRequested = true) (choices : Choices) :
    Consistent wasActive
      (.finish choices .deactivate .active .inactive (data, .error)) := by
  obtain ⟨hstopped, -⟩ :=
    data.world.controller.stopRobot_of_connected hconnected choices.readings
  unfold Interleaved.finish Managed.settle SystemData.onError
  dsimp only
  rw [hrequested, SystemData.foldl_triggerSubnode_eq PrimaryState.goal_shutdown
    systemNodes systemNodes_nodup (fun name _ => hsubnodes name)
    (fun name world => on_success choices .shutdown world (by decide) name),
    SystemData.triggerAll_systemNodes PrimaryState.goal_shutdown hsubnodes
    (fun name world => on_success choices .shutdown world (by decide) name)]
  exact .finalized hcycles (fun _ => hstopped.lastIsZero)

theorem activate_consistent {wasActive : Prop}
    (hsubnodes : ∀ name, data.subnodes name = .inactive)
    (hconnected : data.world.controller.Connected) (choices : Choices) :
    Consistent wasActive (step ⟨.inactive, .idle, data⟩ (.activate choices)) := by
  change Consistent wasActive (.finish choices .activate .inactive .active
    (data.onActivate (subnodeCallbacks choices) activateSupervisor))
  unfold SystemData.onActivate
  rw [SystemData.triggerAll_systemNodes PrimaryState.goal_activate hsubnodes
    (fun name world => on_success choices .activate world (by decide) name)]
  exact .active (fun _ => rfl) hconnected

end Steps

/-- SystemNode itself is shut down while Active. -/
def ShutdownFromActive (s : Interleaved) : Event → Prop
  | .shutdown _ => s.state = .active ∧ s.phase = .idle
  | _ => False

theorem step_consistent {wasActive : Prop} {s : Interleaved} (h : Consistent wasActive s)
    (e : Event) (hallowed : ¬ ShutdownFromActive s e) :
    Consistent (wasActive ∨ s.state = .active) (step s e) := by
  cases h with
  | inactive hcycles hsubnodes hconnected hzero =>
      have hzero' := hzero ∘ (or_iff_left (by decide : ¬ PrimaryState.inactive = .active)).mp
      cases e with
      | rtCycle c =>
          change Consistent _ ⟨_, _, rtCycle _ c⟩
          rw [rtCycle_of_stopped hcycles]
          exact .inactive hcycles hsubnodes hconnected hzero'
      | shutdown choices => exact .finalized hcycles hzero'
      | activate choices => exact activate_consistent hsubnodes hconnected choices
      | _ => exact .inactive hcycles hsubnodes hconnected hzero'
  | active hsubnodes hconnected =>
      cases e with
      | rtCycle c => exact rtCycle_consistent hsubnodes hconnected c
      | shutdown choices => exact absurd ⟨rfl, rfl⟩ hallowed
      | stopCycles choices => exact .cyclesStopped rfl hsubnodes hconnected
      | _ => exact .active hsubnodes hconnected
  | cyclesStopped hcycles hsubnodes hconnected =>
      cases e with
      | rtCycle c =>
          change Consistent _ ⟨_, _, rtCycle _ c⟩
          rw [rtCycle_of_stopped hcycles]
          exact .cyclesStopped hcycles hsubnodes hconnected
      | deactivateSubnodes choices =>
          exact deactivateSubnodes_consistent hcycles hsubnodes hconnected choices
      | _ => exact .cyclesStopped hcycles hsubnodes hconnected
  | subnodesDone hcycles hsubnodes hconnected hzero hresult =>
      cases e with
      | rtCycle c =>
          change Consistent _ ⟨_, _, rtCycle _ c⟩
          rw [rtCycle_of_stopped hcycles]
          exact .subnodesDone hcycles hsubnodes hconnected hzero hresult
      | requestShutdown reason =>
          exact .subnodesDone hcycles hsubnodes hconnected hzero
            (hresult.imp_right fun ⟨herror, _⟩ => ⟨herror, rfl⟩)
      | finishDeactivate choices =>
          rcases hresult with rfl | ⟨rfl, hrequested⟩
          · exact .inactive hcycles hsubnodes hconnected (fun _ => hzero)
          · exact onError_consistent hcycles hsubnodes hconnected hrequested choices
      | _ => exact .subnodesDone hcycles hsubnodes hconnected hzero hresult
  | finalized hcycles hzero =>
      have hzero' := hzero ∘ (or_iff_left (by decide : ¬ PrimaryState.finalized = .active)).mp
      cases e with
      | rtCycle c =>
          change Consistent _ ⟨_, _, rtCycle _ c⟩
          rw [rtCycle_of_stopped hcycles]
          exact .finalized hcycles hzero'
      | _ => exact .finalized hcycles hzero'

def WasActive (past : List (Interleaved × Event)) : Prop :=
  ∃ p ∈ past, p.1.state = .active

theorem run_consistent {s : Interleaved} {past : List (Interleaved × Event)}
    (hrun : Run step Start s past) (hallowed : ∀ p ∈ past, ¬ ShutdownFromActive p.1 p.2) :
    Consistent (WasActive past) s := by
  refine hrun.history_invariant (motive := fun s past => Consistent (WasActive past) s)
    (fun s e => ¬ ShutdownFromActive s e) ?_ ?_ hallowed
  · rintro ⟨state, phase, data⟩
      ⟨rfl, rfl, hcycles, -, hsubnodes, unconfigured, params, loading, hconfigure⟩
    refine .inactive hcycles hsubnodes (unconfigured.onConfigure_ready hconfigure).connected ?_
    rintro ⟨p, hp, -⟩
    exact absurd hp List.not_mem_nil
  · intro s e past h he
    have hwas : WasActive ((s, e) :: past) ↔ WasActive past ∨ s.state = .active := by
      simp [WasActive, or_comm]
    rw [hwas]
    exact step_consistent h e he

theorem step_rtCycle_of_stopped {s : Interleaved} (h : s.data.active = false)
    (c : SystemCycle) : step s (.rtCycle c) = s := by
  rw [step, rtCycle_of_stopped h]

/-- Out of Active no step publishes, and only activating leads back. -/
theorem step_published {wasActive : Prop} {s : Interleaved} (h : Consistent wasActive s)
    (hstate : s.state ≠ .active) (e : Event) :
    (step s e).controller.published = s.controller.published := by
  cases h with
  | inactive hcycles hsubnodes hconnected hzero =>
      cases e with
      | rtCycle c => rw [step_rtCycle_of_stopped hcycles]
      | activate choices =>
          change (Interleaved.finish choices .activate .inactive .active
            (SystemData.onActivate (subnodeCallbacks choices) activateSupervisor
              _)).controller.published = _
          unfold SystemData.onActivate
          rw [SystemData.triggerAll_systemNodes PrimaryState.goal_activate hsubnodes
            (fun name world => on_success choices .activate world (by decide) name)]
          rfl
      | _ => rfl
  | finalized hcycles hzero =>
      cases e with
      | rtCycle c => rw [step_rtCycle_of_stopped hcycles]
      | _ => rfl
  | active => exact absurd rfl hstate
  | cyclesStopped => exact absurd rfl hstate
  | subnodesDone => exact absurd rfl hstate

/-- While SystemNode is not shut down from Active itself: once out of Active, the last
command published is exactly zero, and nothing more is published before it is Active
again. -/
theorem stopped_outside_active {s : Interleaved} {past : List (Interleaved × Event)}
    (hrun : Run step Start s past) (hallowed : ∀ p ∈ past, ¬ ShutdownFromActive p.1 p.2)
    (hstate : s.state ≠ .active) :
    (WasActive past → s.controller.LastIsZero) ∧
      ∀ e, (step s e).controller.published = s.controller.published := by
  have h := run_consistent hrun hallowed
  refine ⟨?_, step_published h hstate⟩
  intro hwas
  cases h with
  | inactive _ _ _ hzero => exact hzero hwas
  | finalized _ hzero => exact hzero hwas
  | active => exact absurd rfl hstate
  | cyclesStopped => exact absurd rfl hstate
  | subnodesDone => exact absurd rfl hstate

def exampleInterleaved : Interleaved where
  state := .inactive
  phase := .idle
  data :=
    { subnodes := fun _ => .inactive
      active := false
      shutdownReason := none
      world := exampleSystem }

theorem exampleInterleaved_start : Start exampleInterleaved := by
  have hconfigure : (({} : ControllerNode).onConfigure {} {}).2 = .success := by decide +kernel
  exact ⟨rfl, rfl, rfl, rfl, fun _ => rfl, {}, {}, {}, Prod.ext rfl hconfigure⟩

def exampleChoices : Choices where
  readings := { start := 500000000, loop := [], last := 500000000 }

def exampleDriving : Interleaved :=
  step (step (step exampleInterleaved (.activate exampleChoices)) (.status {} 0))
    (.rtCycle (drivingCycle 400000000))

/-- A shutdown is requested while driving, and a cycle runs before SystemNode goes to
error processing. -/
theorem stopped_outside_active_requested :
    let stopping := step (step exampleDriving (.requestShutdown "late"))
      (.stopCycles exampleChoices)
    let done := step (step (step stopping (.rtCycle (drivingCycle 450000000)))
      (.deactivateSubnodes exampleChoices)) (.finishDeactivate exampleChoices)
    done.state = .finalized ∧ done.controller.LastIsZero := by
  have hstart : Run step Start exampleInterleaved [] := .init exampleInterleaved_start
  have hdriving := ((hstart.next (.activate exampleChoices)).next (.status {} 0)).next
    (.rtCycle (drivingCycle 400000000))
  have hstopping := (hdriving.next (.requestShutdown "late")).next (.stopCycles exampleChoices)
  have hdone := ((hstopping.next (.rtCycle (drivingCycle 450000000))).next
    (.deactivateSubnodes exampleChoices)).next (.finishDeactivate exampleChoices)
  refine ⟨by decide +kernel, (stopped_outside_active hdone ?_ (by decide +kernel)).1 ?_⟩
  · simp [ShutdownFromActive]
  · exact ⟨(exampleDriving, .requestShutdown "late"), by simp [exampleDriving], rfl⟩

/-- Shut down while driving, SystemNode is Finalized with the last command still in
force, and its RT cycles go on publishing. -/
theorem not_stopped_after_shutdown :
    ∃ s past, Run step Start s past ∧ s.state ≠ .active ∧ WasActive past ∧
      ¬ s.controller.LastIsZero ∧
      (step s (.rtCycle (drivingCycle 450000000))).controller.published.length =
        s.controller.published.length + 1 := by
  have hstart : Run step Start exampleInterleaved [] := .init exampleInterleaved_start
  have hdriving := ((hstart.next (.activate exampleChoices)).next (.status {} 0)).next
    (.rtCycle (drivingCycle 400000000))
  refine ⟨_, _, hdriving.next (.shutdown exampleChoices), by decide +kernel,
    ⟨(exampleDriving, .shutdown exampleChoices), List.mem_cons_self, rfl⟩, ?_,
    by decide +kernel⟩
  rintro ⟨cmd, earlier, hpublished, hzero⟩
  have hx : (exampleDriving.controller.published.map fun cmd => cmd.twist.linear.x) =
      [.fin (1 / 10)] := by decide +kernel
  change exampleDriving.controller.published = _ at hpublished
  rw [hpublished, List.map_cons, hzero] at hx
  exact absurd (List.cons.inj hx).1 (by decide +kernel)

end EasyNav.Deactivation
