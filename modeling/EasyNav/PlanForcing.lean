import EasyNav.MissionInvariant

namespace EasyNav.PlanForcing

open EasyNav.DoubleArithmetic
open EasyNav.NavigationState
open EasyNav.MissionMessages
open EasyNav.MissionServer
open EasyNav.MissionServer.GoalManager
open EasyNav.MissionInvariant
open EasyNav.Runs

/-- What a component does to the blackboard, whose goals only the goal manager writes. -/
structure NavUpdate where
  run : NavState → NavState
  goals : ∀ nav, (run nav).goals = nav.goals

structure PlannerMethod where
  forceUpdate : NavUpdate
  internalUpdate : NavUpdate

/-- `PlannerNode::cycle`, without `check_path`, which discards a path that is not finite and
forces no plan. -/
def plannerCycle (planner : Option PlannerMethod) (nav : NavState) (trigger : Bool) : NavState :=
  match planner with
  | none => nav
  | some method => if trigger then method.forceUpdate.run nav else method.internalUpdate.run nav

structure Components where
  sensors : NavUpdate
  localizer : NavUpdate
  mapsManager : NavUpdate
  planner : Option PlannerMethod
  recovery : NavUpdate

structure SystemNode where
  goalManager : GoalManager := {}
  nav : NavState := {}
  plannedGoalsRevision : UInt64 := 0

namespace SystemNode

def sensed (system : SystemNode) (components : Components) : NavState :=
  components.mapsManager.run (components.localizer.run (components.sensors.run system.nav))

def systemCycle (system : SystemNode) (getYaw : Quaternion → Double) (components : Components)
    (readings : UpdateReadings) : SystemNode × Bool :=
  let (gm, nav, _) := system.goalManager.update getYaw (system.sensed components) readings
  let newGoals := decide (gm.goalsRevision ≠ system.plannedGoalsRevision)
  let nav := plannerCycle components.planner nav newGoals
  let nav := components.recovery.run nav
  ({ goalManager := gm, nav := nav, plannedGoalsRevision := gm.goalsRevision }, newGoals)

def abortMission (system : SystemNode) (reason : String) (now : Time) : SystemNode :=
  if system.goalManager.state = .active then
    { system with goalManager := (system.goalManager.setError reason now).1 }
  else system

end SystemNode

/-- What happens to the system between its cycles, one thing at a time, and the cycles. -/
inductive Event where
  | control (msg : NavigationControl) (readings : ControlReadings)
  | goalPose (pose : PoseStamped) (readings : ControlReadings)
  | abort (reason : String) (now : Time)
  | hold (held : Bool)
  | cycle (components : Components) (readings : UpdateReadings)

def step (getYaw : Quaternion → Double) (system : SystemNode) : Event → SystemNode
  | .control msg readings =>
      { system with goalManager := (system.goalManager.controlCallback msg readings).1 }
  | .goalPose pose readings =>
      { system with goalManager := (system.goalManager.comandedPoseCallback pose readings).1 }
  | .abort reason now => system.abortMission reason now
  | .hold held => { system with goalManager := system.goalManager.setProgressHeld held }
  | .cycle components readings => (system.systemCycle getYaw components readings).1

def Start (system : SystemNode) : Prop :=
  ∃ (params : GoalParameters) (nav : NavState),
    system.goalManager = (GoalManager.create params nav).1 ∧
      system.nav = (GoalManager.create params nav).2 ∧ system.plannedGoalsRevision = 0

/-- The update of this cycle changes the goals on the blackboard. -/
def ChangesGoals (getYaw : Quaternion → Double) (system : SystemNode) (components : Components)
    (readings : UpdateReadings) : Prop :=
  (system.goalManager.update getYaw (system.sensed components) readings).2.1.goals ≠
    (system.sensed components).goals

/-- A cycle without a pose, while the goals of the mission are not on the blackboard. -/
def Overlooks (system : SystemNode) : Event → Prop
  | .cycle components _ =>
      system.goalManager.state = .active ∧ (system.sensed components).robotPose = none ∧
        system.nav.goals ≠ some system.goalManager.goals
  | _ => False

def sinceCycle : List (SystemNode × Event) → Nat
  | [] => 0
  | (_, .cycle _ _) :: _ => 0
  | _ :: past => sinceCycle past + 1

section Revision

/-- The mission and its revision are the same in both. -/
structure SameGoals (a b : GoalManager) : Prop where
  state : a.state = b.state
  goals : a.goals = b.goals
  goalsRevision : a.goalsRevision = b.goalsRevision

theorem SameGoals.refl (gm : GoalManager) : SameGoals gm gm := ⟨rfl, rfl, rfl⟩

theorem SameGoals.trans {a b c : GoalManager} (hab : SameGoals a b) (hbc : SameGoals b c) :
    SameGoals a c :=
  ⟨hab.state.trans hbc.state, hab.goals.trans hbc.goals,
    hab.goalsRevision.trans hbc.goalsRevision⟩

/-- What an operation does to the goals, which it counts unless it leaves them alone. -/
inductive Revised (a b : GoalManager) : Prop
  | same (h : SameGoals a b)
  | counted (n : Nat) (hpos : 0 < n) (hle : n ≤ 2)
      (h : a.goalsRevision = b.goalsRevision + UInt64.ofNat n)

theorem Revised.of_same {a b c : GoalManager} (hab : SameGoals a b) (hbc : Revised b c) :
    Revised a c := by
  cases hbc with
  | same h => exact .same (hab.trans h)
  | counted n hpos hle h => exact .counted n hpos hle (hab.goalsRevision.trans h)

variable {gm : GoalManager}

theorem handleRequest_revised (msg base : NavigationControl) (readings : ControlReadings) :
    Revised (gm.handleRequest msg base readings).2.1 gm := by
  rw [handleRequest]
  split
  · exact .same (.refl gm)
  · split
    · exact .counted 1 one_pos one_le_two rfl
    · split
      · split
        · exact .counted 2 two_pos le_rfl (UInt64.add_assoc gm.goalsRevision 1 1)
        · exact .counted 1 one_pos one_le_two rfl
      · exact .same (.refl gm)

theorem handleCancel_revised (msg base : NavigationControl) :
    Revised (gm.handleCancel msg base).1 gm := by
  rw [handleCancel]
  split
  · exact .same (.refl gm)
  · split
    · exact .same (.refl gm)
    · exact .counted 1 one_pos one_le_two rfl

theorem handlePause_sameGoals (msg base : NavigationControl) :
    SameGoals (gm.handlePause msg base).1 gm := by
  rw [handlePause]
  split
  · exact .refl gm
  · exact ⟨rfl, rfl, rfl⟩

theorem handleResume_sameGoals (msg base : NavigationControl) :
    SameGoals (gm.handleResume msg base).1 gm := by
  rw [handleResume]
  split
  · exact .refl gm
  · exact ⟨rfl, rfl, rfl⟩

theorem controlCallback_revised (msg : NavigationControl) (readings : ControlReadings) :
    Revised (gm.controlCallback msg readings).1 gm := by
  have hkeep : ∀ gm' : GoalManager, Revised gm' gm → Revised { gm' with lastControl := msg } gm :=
    fun gm' hgm' => Revised.of_same (b := gm') ⟨rfl, rfl, rfl⟩ hgm'
  rw [controlCallback]
  split
  · exact .same (.refl gm)
  · apply hkeep
    split
    · exact handleRequest_revised msg _ readings
    · exact handleCancel_revised msg _
    · exact .same (handlePause_sameGoals msg _)
    · exact .same (handleResume_sameGoals msg _)
    · exact .same (.refl gm)

end Revision

section Updating

variable {gm : GoalManager}

theorem syncState_sameGoals (gm : GoalManager) (nav : NavState) :
    SameGoals (gm.syncState nav).1 gm ∧ (gm.syncState nav).2.goals = nav.goals := by
  rw [syncState]
  split
  · exact ⟨⟨rfl, rfl, rfl⟩, rfl⟩
  · exact ⟨.refl gm, rfl⟩

theorem synced_sameGoals (gm : GoalManager) (nav : NavState) :
    SameGoals (synced gm nav).1 gm ∧ (synced gm nav).2.goals = nav.goals := by
  have hstate := syncState_sameGoals gm nav
  have hpaused : SameGoals ((gm.syncState nav).1.syncPaused (gm.syncState nav).2).1
        (gm.syncState nav).1 ∧
      ((gm.syncState nav).1.syncPaused (gm.syncState nav).2).2.goals =
        (gm.syncState nav).2.goals := by
    rw [syncPaused]
    split
    · exact ⟨⟨rfl, rfl, rfl⟩, rfl⟩
    · exact ⟨.refl _, rfl⟩
  exact ⟨hpaused.1.trans hstate.1, hpaused.2.trans hstate.2⟩

theorem publishFinalInfo_sameGoals (gm : GoalManager) (subscribed : Bool) :
    SameGoals (gm.publishFinalInfo subscribed).1 gm := by
  rw [publishFinalInfo]
  split
  · exact .refl gm
  · exact ⟨rfl, rfl, rfl⟩

theorem publishInfo_sameGoals (gm : GoalManager) (publishing subscribed : Bool) :
    SameGoals (gm.publishInfo publishing subscribed).1 gm := by
  rw [publishInfo]
  split
  · exact publishFinalInfo_sameGoals gm subscribed
  · split
    · exact ⟨rfl, rfl, rfl⟩
    · exact .refl gm

theorem publishFeedback_sameGoals (gm : GoalManager) (feedback : NavigationControl)
    (readings : UpdateReadings) : SameGoals (gm.publishFeedback feedback readings).1 gm := by
  rw [publishFeedback]
  split
  · exact ⟨rfl, rfl, rfl⟩
  · exact .refl gm

/-- What an update does to the goals and to those on the blackboard. -/
inductive GoalsUpdated (gm : GoalManager) (nav : NavState) (gm' : GoalManager) (nav' : NavState) :
    Prop
  | idle (hstate : gm'.state = .idle) (hsame : SameGoals gm' gm) (hnav : nav'.goals = nav.goals)
  | emptied (hstate : gm.state = .idle) (hstate' : gm'.state = .idle)
      (hrevision : gm'.goalsRevision = gm.goalsRevision + UInt64.ofNat 1)
  | waiting (hstate : gm.state = .active) (hpose : nav.robotPose = none)
      (hsame : SameGoals gm' gm) (hnav : nav'.goals = nav.goals)
  | written (hstate : gm.state = .active) (hpose : nav.robotPose ≠ none)
      (hrevised : Revised gm' gm) (hnav : gm'.state = .active → nav'.goals = some gm'.goals)

theorem GoalsUpdated.of_same {a b gm' : GoalManager} {nav nav₀ nav' : NavState}
    (h : GoalsUpdated a nav gm' nav') (hab : SameGoals a b) (hgoals : nav.goals = nav₀.goals)
    (hpose : nav.robotPose = nav₀.robotPose) : GoalsUpdated b nav₀ gm' nav' := by
  cases h with
  | idle hstate hsame hnav => exact .idle hstate (hsame.trans hab) (hnav.trans hgoals)
  | emptied hstate hstate' hrevision =>
      exact .emptied (hab.state.symm.trans hstate) hstate'
        (by rw [hrevision, hab.goalsRevision])
  | waiting hstate hnone hsame hnav =>
      exact .waiting (hab.state.symm.trans hstate) (hpose.symm.trans hnone) (hsame.trans hab)
        (hnav.trans hgoals)
  | written hstate hsome hrevised hnav =>
      refine .written (hab.state.symm.trans hstate) (hpose ▸ hsome) ?_ hnav
      cases hrevised with
      | same h => exact .same (h.trans hab)
      | counted n hpos hle h => exact .counted n hpos hle (by rw [h, hab.goalsRevision])

/-- The goals of the mission are on the blackboard after an update unless it had no pose to
go on with. -/
theorem GoalsUpdated.upToDate_iff {gm' : GoalManager} {nav nav' : NavState}
    (h : GoalsUpdated gm nav gm' nav') :
    (gm'.state = .active → nav'.goals = some gm'.goals) ↔
      ¬ (gm.state = .active ∧ nav.robotPose = none ∧ nav.goals ≠ some gm.goals) := by
  cases h with
  | idle hstate hsame =>
      rw [hstate, ← hsame.state, hstate]
      simp
  | emptied hstate hstate' =>
      rw [hstate, hstate']
      simp
  | waiting hstate hpose hsame hnav =>
      rw [hsame.state, hnav, hsame.goals]
      simp [hstate, hpose]
  | written hstate hpose hrevised hnav => exact iff_of_true hnav (fun h => hpose h.2.1)

theorem updateIdle_goalsUpdated (hidle : gm.state = .idle) (nav : NavState) (subscribed : Bool) :
    GoalsUpdated gm nav (gm.updateIdle nav subscribed).1 (gm.updateIdle nav subscribed).2.1 := by
  have hinfo := publishFinalInfo_sameGoals gm subscribed
  rw [updateIdle]
  dsimp only
  split
  · exact .idle (hinfo.state.trans hidle) hinfo rfl
  · refine .emptied hidle (hinfo.state.trans hidle) ?_
    change (gm.publishFinalInfo subscribed).1.goalsRevision + 1 = _
    rw [hinfo.goalsRevision]
    rfl

variable (getYaw : Quaternion → Double)

theorem progress_revised (gm : GoalManager) (pose : Pose) :
    SameGoals (gm.progress getYaw pose) gm ∨
      (gm.progress getYaw pose).goalsRevision = gm.goalsRevision + 1 := by
  rcases gm.progress_cases getYaw pose with h | ⟨firstGoal, goals, -, -, -, h⟩
  · rw [h]
    exact Or.inl (.refl gm)
  · rw [h]
    exact Or.inr rfl

theorem informed_sameGoals (gm : GoalManager) (odom : Odometry) (firstGoal : Pose)
    (readings : UpdateReadings) :
    SameGoals ((gm.publishFeedback (gm.feedback odom firstGoal readings) readings).1.updateInfo
      (gm.feedback odom firstGoal readings).distanceToGoal
      (calculateAngle getYaw odom.pose firstGoal)) gm := by
  have hreported := publishFeedback_sameGoals gm (gm.feedback odom firstGoal readings) readings
  exact ⟨hreported.state, hreported.goals, hreported.goalsRevision⟩

theorem synced_published_sameGoals (gm : GoalManager) (nav : NavState)
    (publishing subscribed : Bool) :
    SameGoals ((gm.syncState nav).1.publishInfo publishing subscribed).1 gm ∧
      (gm.syncState nav).2.goals = nav.goals := by
  obtain ⟨hsync, hnav⟩ := syncState_sameGoals gm nav
  exact ⟨(publishInfo_sameGoals _ publishing subscribed).trans hsync, hnav⟩

/-- The goals that remain are written; the last one, once reached, is erased in the same
update. -/
theorem updateActive_goalsUpdated (hactive : gm.state = .active) (hgoals : gm.goals.goals ≠ [])
    {nav : NavState} {odom : Odometry} (hpose : nav.robotPose = some odom)
    (firstGoal : Pose) (readings : UpdateReadings) :
    GoalsUpdated gm nav (gm.updateActive getYaw nav odom firstGoal readings).1
      (gm.updateActive getYaw nav odom firstGoal readings).2.1 := by
  have hpose : nav.robotPose ≠ none := by
    rw [hpose]
    exact Option.some_ne_none odom
  have hinformed := informed_sameGoals getYaw gm odom firstGoal readings
  rw [updateActive]
  dsimp only
  set informed := (gm.publishFeedback (gm.feedback odom firstGoal readings)
    readings).1.updateInfo (gm.feedback odom firstGoal readings).distanceToGoal
      (calculateAngle getYaw odom.pose firstGoal)
  have hprogress := progress_revised getYaw informed odom.pose
  set progressed := informed.progress getYaw odom.pose
  rcases progressed.finishIfDone_cases readings.finished with ⟨hleft, hfinish⟩ | ⟨hdone, hfinish⟩
  · rw [hfinish]
    dsimp only
    obtain ⟨hsame, hnav⟩ := synced_published_sameGoals progressed (progressed.syncGoals nav)
      (gm.shouldPublish readings) readings.subscribed
    refine .written hactive hpose ?_ ?_
    · apply Revised.of_same hsame
      rcases hprogress with hkept | hcounted
      · exact .same (hkept.trans hinformed)
      · exact .counted 1 one_pos one_le_two (by rw [hcounted, hinformed.goalsRevision]; rfl)
    · intro _
      rw [hnav, syncGoals_goals, hsame.goals]
  · rw [hfinish]
    dsimp only
    set ended := (progressed.setFinished readings.finished).1
    obtain ⟨hsame, -⟩ := synced_published_sameGoals ended (progressed.syncGoals nav)
      (gm.shouldPublish readings) readings.subscribed
    refine .written hactive hpose ?_ ?_
    · apply Revised.of_same hsame
      rcases hprogress with hkept | hcounted
      · have hempty : gm.goals.goals = [] := by
          rw [← hinformed.goals, ← hkept.goals, hdone]
        exact absurd hempty hgoals
      · refine .counted 2 two_pos le_rfl ?_
        change progressed.goalsRevision + 1 = _
        rw [hcounted, hinformed.goalsRevision]
        exact UInt64.add_assoc gm.goalsRevision 1 1
    · intro hstate
      have hidle : ended.state = .idle := rfl
      rw [hsame.state, hidle] at hstate
      contradiction

theorem update_goalsUpdated (hgm : WellFormed gm) (nav : NavState) (readings : UpdateReadings) :
    GoalsUpdated gm nav (gm.update getYaw nav readings).1
      (gm.update getYaw nav readings).2.1 := by
  obtain ⟨hsynced, hnav⟩ := synced_sameGoals gm nav
  cases hstate : gm.state with
  | idle =>
      rw [update_of_idle getYaw hstate readings]
      exact (updateIdle_goalsUpdated (hsynced.state.trans hstate) _ _).of_same hsynced hnav
        (synced_robotPose gm nav)
  | active =>
      obtain ⟨firstGoal, goals, hgoals⟩ :=
        List.exists_cons_of_ne_nil (hgm.active_iff.mp hstate)
      cases hodom : nav.robotPose with
      | none =>
          rw [update_of_no_pose getYaw hstate hodom readings]
          exact .waiting hstate hodom hsynced hnav
      | some odom =>
          have hnonempty : (synced gm nav).1.goals.goals ≠ [] := by
            rw [hsynced.goals, hgoals]
            exact List.cons_ne_nil _ _
          have hpose := synced_robotPose gm nav
          rw [update_of_goal getYaw hstate hodom hgoals readings]
          exact (updateActive_goalsUpdated getYaw (hsynced.state.trans hstate) hnonempty
            (hpose.trans hodom) firstGoal.pose readings).of_same hsynced hnav hpose

end Updating

section Cycles

variable {getYaw : Quaternion → Double} {system : SystemNode} {n since : Nat}

/-- The goals of the mission are on the blackboard. -/
def UpToDate (system : SystemNode) : Prop :=
  system.goalManager.state = .active → system.nav.goals = some system.goalManager.goals

/-- The goals have been revised so often since the last plan, at least once if those of the
mission are not on the blackboard. -/
structure Pending (system : SystemNode) (n : Nat) : Prop where
  wellFormed : WellFormed system.goalManager
  goalsRevision :
    system.goalManager.goalsRevision = system.plannedGoalsRevision + UInt64.ofNat n
  upToDate : n = 0 → UpToDate system

theorem create_pending (params : GoalParameters) (nav : NavState)
    (hgm : system.goalManager = (GoalManager.create params nav).1)
    (hplanned : system.plannedGoalsRevision = 0) : Pending system 0 := by
  have hidle : system.goalManager.state = .idle := by
    rw [hgm]
    rfl
  refine ⟨?_, ?_, ?_⟩
  · rw [hgm]
    exact create_wellFormed params nav
  · rw [hgm, hplanned]
    rfl
  · intro _ hactive
    rw [hidle] at hactive
    contradiction

theorem Pending.revised (h : Pending system n) {gm : GoalManager} (hgm : WellFormed gm)
    (hrevised : Revised gm system.goalManager) :
    ∃ m ≤ n + 2, Pending { system with goalManager := gm } m := by
  cases hrevised with
  | same hsame =>
      refine ⟨n, Nat.le_add_right n 2, hgm, hsame.goalsRevision.trans h.goalsRevision, ?_⟩
      intro hzero hactive
      have hnav := h.upToDate hzero (hsame.state.symm.trans hactive)
      rw [← hsame.goals] at hnav
      exact hnav
  | counted m hpos hle hcounted =>
      refine ⟨n + m, Nat.add_le_add_left hle n, hgm, ?_, ?_⟩
      · rw [UInt64.ofNat_add, ← UInt64.add_assoc, ← h.goalsRevision]
        exact hcounted
      · intro hzero
        omega

theorem sensed_goals (system : SystemNode) (components : Components) :
    (system.sensed components).goals = system.nav.goals := by
  rw [SystemNode.sensed, components.mapsManager.goals, components.localizer.goals,
    components.sensors.goals]

theorem plannerCycle_goals (planner : Option PlannerMethod) (nav : NavState) (trigger : Bool) :
    (plannerCycle planner nav trigger).goals = nav.goals := by
  cases planner with
  | none => rfl
  | some method =>
      cases trigger with
      | false => exact method.internalUpdate.goals nav
      | true => exact method.forceUpdate.goals nav

theorem systemCycle_goals (system : SystemNode) (components : Components)
    (readings : UpdateReadings) :
    (system.systemCycle getYaw components readings).1.nav.goals =
      (system.goalManager.update getYaw (system.sensed components) readings).2.1.goals := by
  rw [SystemNode.systemCycle]
  dsimp only
  rw [components.recovery.goals, plannerCycle_goals]

/-- A cycle leaves the blackboard with the goals of the mission exactly if it does not
overlook them. -/
theorem upToDate_systemCycle_iff (h : WellFormed system.goalManager) (components : Components)
    (readings : UpdateReadings) :
    UpToDate (system.systemCycle getYaw components readings).1 ↔
      ¬ Overlooks system (.cycle components readings) := by
  have hupdated := update_goalsUpdated getYaw h (system.sensed components) readings
  rw [UpToDate, systemCycle_goals, Overlooks, ← sensed_goals system components]
  exact hupdated.upToDate_iff

theorem systemCycle_pending (h : Pending system n) (components : Components)
    (readings : UpdateReadings) (hseen : ¬ Overlooks system (.cycle components readings)) :
    Pending (system.systemCycle getYaw components readings).1 0 where
  wellFormed := update_wellFormed getYaw h.wellFormed _ readings
  goalsRevision := (UInt64.add_zero _).symm
  upToDate := fun _ => (upToDate_systemCycle_iff h.wellFormed components readings).mpr hseen

theorem systemCycle_trigger (h : Pending system n) (hn : n + 2 < 2 ^ 64)
    (components : Components) (readings : UpdateReadings)
    (hchanges : ChangesGoals getYaw system components readings) :
    (system.systemCycle getYaw components readings).2 = true := by
  have hcounted : ∀ m, 0 < n + m → m ≤ 2 →
      (system.goalManager.update getYaw (system.sensed components) readings).1.goalsRevision =
        system.goalManager.goalsRevision + UInt64.ofNat m →
      (system.goalManager.update getYaw (system.sensed components) readings).1.goalsRevision ≠
        system.plannedGoalsRevision := by
    intro m hpos hm hrevision
    rw [hrevision, h.goalsRevision, UInt64.add_assoc, ← UInt64.ofNat_add]
    refine add_ofNat_ne hpos ?_
    rw [UInt64.size]
    omega
  rw [SystemNode.systemCycle]
  apply decide_eq_true
  rw [ChangesGoals] at hchanges
  cases update_goalsUpdated getYaw h.wellFormed (system.sensed components) readings with
  | idle _ _ hnav => exact absurd hnav hchanges
  | emptied _ _ hrevision => exact hcounted 1 (Nat.succ_pos n) one_le_two hrevision
  | waiting _ _ _ hnav => exact absurd hnav hchanges
  | written hactive _ hrevised hnav =>
      cases hrevised with
      | counted m hpos hle hrevision => exact hcounted m (Nat.add_pos_right n hpos) hle hrevision
      | same hsame =>
          refine hcounted 0 ?_ (Nat.zero_le 2) (hsame.goalsRevision.trans (UInt64.add_zero _).symm)
          apply Nat.pos_of_ne_zero
          intro hzero
          apply hchanges
          rw [hnav (hsame.state.trans hactive), hsame.goals, sensed_goals]
          exact (h.upToDate hzero hactive).symm

end Cycles

section Runs

variable {getYaw : Quaternion → Double} {system : SystemNode} {past : List (SystemNode × Event)}

theorem step_pending {n : Nat} (h : Pending system n) (e : Event)
    (hseen : ¬ Overlooks system e) :
    ∃ m, Pending (step getYaw system e) m ∧
      (m ≤ n + 2 ∧ sinceCycle ((system, e) :: past) = sinceCycle past + 1 ∨ m = 0) := by
  have hkeep : ∀ gm, WellFormed gm → Revised gm system.goalManager →
      ∃ m, Pending { system with goalManager := gm } m ∧
        (m ≤ n + 2 ∧ sinceCycle past + 1 = sinceCycle past + 1 ∨ m = 0) := by
    intro gm hgm hrevised
    obtain ⟨m, hle, hpending⟩ := h.revised hgm hrevised
    exact ⟨m, hpending, Or.inl ⟨hle, rfl⟩⟩
  cases e with
  | control msg readings =>
      exact hkeep _ (controlCallback_wellFormed h.wellFormed readings)
        (controlCallback_revised msg readings)
  | goalPose pose readings =>
      exact hkeep _ (controlCallback_wellFormed h.wellFormed readings)
        (controlCallback_revised _ readings)
  | abort reason now =>
      rw [step, SystemNode.abortMission]
      split
      · exact hkeep _ (wellFormed_of_idle rfl rfl rfl) (.counted 1 one_pos one_le_two rfl)
      · exact ⟨n, h, Or.inl ⟨Nat.le_add_right n 2, rfl⟩⟩
  | hold held =>
      exact hkeep _ (h.wellFormed.of_same ⟨rfl, rfl, rfl⟩ rfl) (.same ⟨rfl, rfl, rfl⟩)
  | cycle components readings =>
      exact ⟨0, systemCycle_pending h components readings hseen, Or.inr rfl⟩

theorem run_pending (hrun : Run (step getYaw) Start system past)
    (hseen : ∀ p ∈ past, ¬ Overlooks p.1 p.2) :
    ∃ n ≤ 2 * sinceCycle past, Pending system n := by
  refine hrun.history_invariant (motive := fun system past =>
    ∃ n ≤ 2 * sinceCycle past, Pending system n) (fun s e => ¬ Overlooks s e) ?_ ?_ hseen
  · rintro s ⟨params, nav, hgm, -, hplanned⟩
    exact ⟨0, Nat.zero_le _, create_pending params nav hgm hplanned⟩
  · rintro s e past ⟨n, hn, hpending⟩ hseen
    obtain ⟨m, hpending', ⟨hm, hsince⟩ | rfl⟩ :=
      @step_pending getYaw s past n hpending e hseen
    · refine ⟨m, ?_, hpending'⟩
      rw [hsince]
      omega
    · exact ⟨0, Nat.zero_le _, hpending'⟩

/-- As long as no cycle overlooked the goals, a cycle that brings new ones to the blackboard
forces a plan. -/
theorem new_goals_force_plan (hrun : Run (step getYaw) Start system past)
    (hseen : ∀ p ∈ past, ¬ Overlooks p.1 p.2) (hfew : sinceCycle past < 2 ^ 62)
    (components : Components) (readings : UpdateReadings)
    (hchanges : ChangesGoals getYaw system components readings) :
    (system.systemCycle getYaw components readings).2 = true := by
  obtain ⟨n, hn, hpending⟩ := run_pending hrun hseen
  exact systemCycle_trigger hpending (by omega) components readings hchanges

def NavUpdate.none : NavUpdate := ⟨fun nav => nav, fun _ => rfl⟩

/-- Components that know nothing but where the robot is, if at all. -/
def localized (robotPose : Option Odometry) : Components where
  sensors := .none
  localizer := ⟨fun nav => { nav with robotPose := robotPose }, fun _ => rfl⟩
  mapsManager := .none
  planner := none
  recovery := .none

def configured : SystemNode where
  goalManager := (GoalManager.create {} {}).1
  nav := (GoalManager.create {} {}).2

def request : Event :=
  .control
    { userId := "robot"
      goals := { goals := [{ pose := { position := { x := .fin 1 } } }] } } {}

/-- The request, then a cycle that knows where the robot is. -/
theorem new_goals_force_plan_localized :
    let system := step (fun _ => 0) configured request
    ChangesGoals (fun _ => 0) system (localized (some {})) {} ∧
      (system.systemCycle (fun _ => 0) (localized (some {})) {}).2 = true := by
  have hrun : Run (step fun _ => 0) Start configured [] := .init ⟨{}, {}, rfl, rfl, rfl⟩
  have hchanges : ChangesGoals (fun _ => 0) (step (fun _ => 0) configured request)
      (localized (some {})) {} := by
    rw [ChangesGoals]
    decide +kernel
  refine ⟨hchanges, ?_⟩
  refine new_goals_force_plan (hrun.next request) ?_ (by decide) (localized (some {})) {} hchanges
  intro p hp
  rw [List.mem_singleton.mp hp]
  exact id

/-- The request, a cycle that does not know where the robot is, then one that does. -/
theorem new_goals_not_planned :
    let system := [request, .cycle (localized none) {}].foldl (step fun _ => 0) configured
    (∃ past, Run (step fun _ => 0) Start system past) ∧
      ChangesGoals (fun _ => 0) system (localized (some {})) {} ∧
      (system.systemCycle (fun _ => 0) (localized (some {})) {}).2 = false := by
  have hrun : Run (step fun _ => 0) Start configured [] := .init ⟨{}, {}, rfl, rfl, rfl⟩
  refine ⟨⟨_, hrun.foldl _⟩, ?_, by decide +kernel⟩
  rw [ChangesGoals]
  decide +kernel

end Runs

end EasyNav.PlanForcing
