import EasyNav.MissionBookkeeping

namespace EasyNav.NavStateMirror

open EasyNav.DoubleArithmetic
open EasyNav.NavigationState
open EasyNav.MissionMessages
open EasyNav.MissionServer
open EasyNav.MissionServer.GoalManager
open EasyNav.MissionInvariant
open EasyNav.MissionBookkeeping
open EasyNav.Runs

structure Shared where
  manager : GoalManager
  nav : NavState

/-- What the others made of the blackboard, with what the manager has written there. -/
def Shared.given (shared : Shared) (others : NavState) : NavState :=
  { others with
    navigationState := shared.nav.navigationState
    navigationPaused := shared.nav.navigationPaused
    goals := shared.nav.goals }

/-- An event that comes with the blackboard gets what is there. -/
def step (getYaw : Quaternion → Double) (shared : Shared) : Event → Shared
  | .operation (.update others readings) =>
      let (gm, nav, _) := shared.manager.update getYaw (shared.given others) readings
      { manager := gm, nav := nav }
  | .operation (.readParameters params others) =>
      let (gm, nav) := shared.manager.readParameters params (shared.given others)
      { manager := gm, nav := nav }
  | e => { shared with manager := (shared.manager.handle getYaw e).1 }

def Start (shared : Shared) : Prop :=
  ∃ params nav, shared.manager = (GoalManager.create params nav).1 ∧
    shared.nav = (GoalManager.create params nav).2

/-- The blackboard has what the manager has. -/
structure Mirrors (gm : GoalManager) (nav : NavState) : Prop where
  navigationState : nav.navigationState = some gm.state
  navigationPaused : nav.navigationPaused = some gm.paused
  goals : nav.goals.map (·.goals) = some gm.goals.goals

/-- The mission is paused, and reaches its last goal nevertheless. -/
def FinishesPaused (getYaw : Quaternion → Double) (gm : GoalManager) (nav : NavState) : Prop :=
  gm.paused = true ∧ gm.progressHeld = false ∧
    ∃ odom goal, nav.robotPose = some odom ∧ gm.goals.goals = [goal] ∧
      reaches getYaw odom.pose goal.pose gm.goalTolerance = true

/-- What the manager remembers of the blackboard is there. -/
structure Synced (gm : GoalManager) (nav : NavState) : Prop where
  wellFormed : WellFormed gm
  navigationState : nav.navigationState = some gm.lastSyncedNavigationState
  navigationPaused : nav.navigationPaused = some gm.lastSyncedPaused
  idle : gm.goalsSyncedEmpty = true → gm.state = .idle
  goals : gm.goalsSyncedEmpty = true → nav.goals.map (·.goals) = some []

section Control

variable {gm : GoalManager} {nav : NavState} {msg : NavigationControl}

/-- What the manager remembers of the blackboard is the same in both. -/
structure SameSynced (a b : GoalManager) : Prop where
  lastSyncedNavigationState : a.lastSyncedNavigationState = b.lastSyncedNavigationState
  lastSyncedPaused : a.lastSyncedPaused = b.lastSyncedPaused
  goalsSyncedEmpty : a.goalsSyncedEmpty = true → b.goalsSyncedEmpty = true
  idle : a.goalsSyncedEmpty = true → b.state = .idle → a.state = .idle

theorem SameSynced.refl (gm : GoalManager) : SameSynced gm gm :=
  ⟨rfl, rfl, fun h => h, fun _ h => h⟩

/-- Nothing is remembered anew, unless it is that there are goals to write. -/
theorem Synced.of_sameSynced {gm' : GoalManager} (h : Synced gm nav) (hgm' : WellFormed gm')
    (hsame : SameSynced gm' gm) : Synced gm' nav := by
  refine ⟨hgm', ?_, ?_, ?_, ?_⟩
  · rw [hsame.lastSyncedNavigationState]
    exact h.navigationState
  · rw [hsame.lastSyncedPaused]
    exact h.navigationPaused
  · intro hempty
    exact hsame.idle hempty (h.idle (hsame.goalsSyncedEmpty hempty))
  · intro hempty
    exact h.goals (hsame.goalsSyncedEmpty hempty)

theorem controlCallback_sameSynced (readings : ControlReadings) :
    SameSynced (gm.controlCallback msg readings).1 gm := by
  rcases gm.controlCallback_commanded msg readings with h | ⟨gm', hgm', h⟩
  · rw [h]
    exact .refl gm
  · rw [h]
    cases hgm' with
    | kept => exact ⟨rfl, rfl, fun h => h, fun _ h => h⟩
    | accepted start revision hgoals => exact ⟨rfl, rfl, by simp, by simp⟩
    | cancelled hactive => exact ⟨rfl, rfl, fun h => h, fun _ _ => rfl⟩
    | paused paused hactive => exact ⟨rfl, rfl, fun h => h, fun _ h => h⟩

end Control

section Update

variable {gm : GoalManager} {nav : NavState}

theorem syncGoals_other (gm : GoalManager) (nav : NavState) :
    (gm.syncGoals nav).navigationState = nav.navigationState ∧
      (gm.syncGoals nav).navigationPaused = nav.navigationPaused := by
  unfold syncGoals
  split
  · exact ⟨rfl, rfl⟩
  · split <;> exact ⟨rfl, rfl⟩

theorem syncState_navigationState
    (h : nav.navigationState = some gm.lastSyncedNavigationState) :
    (gm.syncState nav).2.navigationState = some gm.state := by
  unfold syncState
  split
  · rfl
  · rename_i hsame
    rw [ne_eq, not_not] at hsame
    rw [h, hsame]

theorem syncState_other (gm : GoalManager) (nav : NavState) :
    (gm.syncState nav).2.navigationPaused = nav.navigationPaused ∧
      (gm.syncState nav).2.goals = nav.goals := by
  unfold syncState
  split <;> exact ⟨rfl, rfl⟩

theorem syncPaused_navigationPaused (h : nav.navigationPaused = some gm.lastSyncedPaused) :
    (gm.syncPaused nav).2.navigationPaused = some gm.paused := by
  unfold syncPaused
  split
  · rfl
  · rename_i hsame
    rw [ne_eq, not_not] at hsame
    rw [h, hsame]

theorem syncPaused_other (gm : GoalManager) (nav : NavState) :
    (gm.syncPaused nav).2.navigationState = nav.navigationState ∧
      (gm.syncPaused nav).2.goals = nav.goals := by
  unfold syncPaused
  split <;> exact ⟨rfl, rfl⟩

theorem synced_nav (h : Synced gm nav) :
    (synced gm nav).2.navigationState = some gm.state ∧
      (synced gm nav).2.navigationPaused = some gm.paused ∧
      (synced gm nav).2.goals = nav.goals := by
  obtain ⟨hpaused, hgoals⟩ := syncState_other gm nav
  obtain ⟨hstate', hgoals'⟩ := syncPaused_other (gm.syncState nav).1 (gm.syncState nav).2
  have hsynced : (gm.syncState nav).2.navigationPaused =
      some (gm.syncState nav).1.lastSyncedPaused := by
    rw [hpaused, syncState_eq]
    exact h.navigationPaused
  have hsame : (gm.syncState nav).1.paused = gm.paused := by rw [syncState_eq]
  refine ⟨?_, ?_, ?_⟩
  · exact hstate'.trans (syncState_navigationState h.navigationState)
  · exact (syncPaused_navigationPaused hsynced).trans (congrArg some hsame)
  · exact hgoals'.trans hgoals

theorem noted_synced (h : Synced gm nav) : Synced (noted gm) (synced gm nav).2 := by
  obtain ⟨hstate, hpaused, hgoals⟩ := synced_nav h
  refine ⟨h.wellFormed.of_same ⟨rfl, rfl, rfl⟩ rfl, hstate, hpaused, h.idle, ?_⟩
  rw [hgoals]
  exact h.goals

/-- The end of an update: the goals that were left are written, and then the state. -/
theorem syncState_syncGoals (left : GoalManager)
    (h : nav.navigationState = some gm.lastSyncedNavigationState) :
    (gm.syncState (left.syncGoals nav)).2.navigationState = some gm.state ∧
      (gm.syncState (left.syncGoals nav)).2.navigationPaused = nav.navigationPaused ∧
      (gm.syncState (left.syncGoals nav)).2.goals = some left.goals := by
  obtain ⟨hstate, hpaused⟩ := syncGoals_other left nav
  obtain ⟨hpaused', hgoals'⟩ := syncState_other gm (left.syncGoals nav)
  refine ⟨syncState_navigationState (hstate.trans h), hpaused'.trans hpaused, ?_⟩
  rw [hgoals', syncGoals_goals]

theorem publishFinalInfo_sameSynced (gm : GoalManager) (subscribed : Bool) :
    SameSynced (gm.publishFinalInfo subscribed).1 gm := by
  unfold publishFinalInfo
  split
  · exact .refl gm
  · exact ⟨rfl, rfl, fun h => h, fun _ h => h⟩

theorem updateIdle_synced (h : Synced gm nav) (hidle : gm.state = .idle) (subscribed : Bool) :
    Synced (gm.updateIdle nav subscribed).1 (gm.updateIdle nav subscribed).2.1 ∧
      (gm.updateIdle nav subscribed).1.state = .idle ∧
      (gm.updateIdle nav subscribed).1.paused = gm.paused ∧
      (gm.updateIdle nav subscribed).2.1.navigationState = nav.navigationState ∧
      (gm.updateIdle nav subscribed).2.1.navigationPaused = nav.navigationPaused ∧
      (gm.updateIdle nav subscribed).2.1.goals.map (·.goals) = some [] := by
  have hgm' := updateIdle_wellFormed h.wellFormed hidle nav subscribed
  have hstate := (gm.publishFinalInfo_same subscribed).1.state.trans hidle
  have hpaused := publishFinalInfo_paused gm subscribed
  have hsame := publishFinalInfo_sameSynced gm subscribed
  unfold updateIdle at hgm' ⊢
  dsimp only at hgm' ⊢
  split
  · rename_i hempty
    rw [if_pos hempty] at hgm'
    refine ⟨h.of_sameSynced hgm' hsame, hstate, hpaused, rfl, rfl, ?_⟩
    exact h.goals (hsame.goalsSyncedEmpty hempty)
  · rename_i hempty
    rw [if_neg hempty] at hgm'
    refine ⟨⟨hgm', ?_, ?_, fun _ => hstate, fun _ => rfl⟩, hstate, hpaused, rfl, rfl, rfl⟩
    · exact h.navigationState.trans (congrArg some hsame.lastSyncedNavigationState.symm)
    · exact h.navigationPaused.trans (congrArg some hsame.lastSyncedPaused.symm)

/-- While there is a mission, it is not remembered that the goals are empty. -/
theorem Synced.of_written {gm' : GoalManager} {nav' : NavState} (h : Synced gm nav)
    (hactive : gm.state = .active) (hgm' : WellFormed gm')
    (hstate : nav'.navigationState = some gm'.lastSyncedNavigationState)
    (hpaused : nav'.navigationPaused = nav.navigationPaused)
    (hlast : gm'.lastSyncedPaused = gm.lastSyncedPaused)
    (hempty : gm'.goalsSyncedEmpty = true → gm.goalsSyncedEmpty = true) : Synced gm' nav' := by
  have hnonempty : gm'.goalsSyncedEmpty ≠ true := by
    intro hsynced
    have hidle := h.idle (hempty hsynced)
    rw [hactive] at hidle
    contradiction
  refine ⟨hgm', hstate, ?_, fun h => absurd h hnonempty, fun h => absurd h hnonempty⟩
  rw [hpaused, hlast]
  exact h.navigationPaused

variable (getYaw : Quaternion → Double) (odom : Odometry) (firstGoal : Pose)
  (readings : UpdateReadings)

/-- An update of an active manager writes the goals before it ends the mission, and the
state after that; the pause stays as it was. -/
theorem updateActive_synced (h : Synced gm nav) (hactive : gm.state = .active) :
    let updated := gm.updateActive getYaw nav odom firstGoal readings
    Synced updated.1 updated.2.1 ∧ updated.2.1.navigationState = some updated.1.state ∧
      updated.2.1.navigationPaused = nav.navigationPaused ∧
      updated.2.1.goals.map (·.goals) = some updated.1.goals.goals ∧
      (updated.1.paused = gm.paused ↔
        ¬ (gm.paused = true ∧
          (progressed gm getYaw odom firstGoal readings).goals.goals = [])) := by
  have hwellFormed := updateActive_wellFormed getYaw hactive nav odom firstGoal readings
  have hkept := progressed_sameBookkeeping gm getYaw odom firstGoal readings
  dsimp only
  by_cases hdone : (progressed gm getYaw odom firstGoal readings).goals.goals = []
  · obtain ⟨hended, hnav, -⟩ := updateActive_of_done getYaw nav hdone
    rw [hended] at hwellFormed ⊢
    rw [hnav]
    generalize progressed gm getYaw odom firstGoal readings = left at hdone hkept hwellFormed ⊢
    have hsynced : nav.navigationState =
        some (left.setFinished readings.finished).1.lastSyncedNavigationState :=
      h.navigationState.trans (congrArg some hkept.lastSyncedNavigationState.symm)
    obtain ⟨hstate, hpaused, hgoals⟩ := syncState_syncGoals left hsynced
    set ended : GoalManager :=
      { (left.setFinished readings.finished).1 with lastSyncedNavigationState := .idle }
    have hsame := publishFinalInfo_sameSynced ended readings.subscribed
    have hmission := (ended.publishFinalInfo_same readings.subscribed).1
    refine ⟨h.of_written hactive hwellFormed ?_ hpaused ?_ ?_, ?_, hpaused, ?_, ?_⟩
    · rw [hstate, hsame.lastSyncedNavigationState]
      rfl
    · exact hsame.lastSyncedPaused.trans hkept.lastSyncedPaused
    · exact fun hempty => hkept.goalsSyncedEmpty.symm.trans (hsame.goalsSyncedEmpty hempty)
    · rw [hstate, hmission.state]
    · rw [hgoals, hmission.goals]
      exact congrArg some hdone
    · rw [publishFinalInfo_paused, and_iff_left hdone, Bool.not_eq_true]
      exact eq_comm
  · obtain ⟨hmission, hkept', hnav, -⟩ := updateActive_of_left getYaw nav hactive hdone
    rw [hnav]
    have hsynced := h.navigationState.trans (congrArg some hkept.lastSyncedNavigationState.symm)
    obtain ⟨hstate, hpaused, hgoals⟩ := syncState_syncGoals _ hsynced
    refine ⟨h.of_written hactive hwellFormed ?_ hpaused ?_ ?_, ?_, hpaused, ?_, ?_⟩
    · rw [hstate, hkept'.lastSyncedNavigationState]
    · exact hkept'.lastSyncedPaused.trans hkept.lastSyncedPaused
    · exact hkept.goalsSyncedEmpty.symm.trans ∘ hkept'.goalsSyncedEmpty.symm.trans
    · rw [hstate, hmission.state]
    · rw [hgoals, hmission.goals]
      rfl
    · exact iff_of_true (hkept'.paused.trans hkept.paused) fun h => hdone h.2

theorem update_synced (h : Synced gm nav) :
    Synced (gm.update getYaw nav readings).1 (gm.update getYaw nav readings).2.1 := by
  have hnoted := noted_synced h
  rcases update_cases gm getYaw nav readings with
    ⟨hidle, heq⟩ | ⟨-, -, heq⟩ | ⟨odom, goal, goals, hactive, -, -, heq⟩
  · rw [heq]
    exact (updateIdle_synced hnoted hidle readings.subscribed).1
  · rw [heq]
    exact hnoted
  · rw [heq]
    exact (updateActive_synced getYaw odom goal.pose readings hnoted hactive).1

theorem finishesPaused_iff {odom : Odometry} {goal : PoseStamped} {goals : List PoseStamped}
    (hodom : nav.robotPose = some odom) (hgoals : gm.goals.goals = goal :: goals) :
    FinishesPaused getYaw gm nav ↔ gm.paused = true ∧ gm.progressHeld = false ∧ goals = [] ∧
      reaches getYaw odom.pose goal.pose gm.goalTolerance = true := by
  unfold FinishesPaused
  rw [hodom, hgoals]
  constructor
  · rintro ⟨hpaused, hheld, odom', goal', hodom', hlast, hreaches⟩
    obtain rfl := Option.some.inj hodom'
    obtain ⟨rfl, rfl⟩ := List.cons.inj hlast
    exact ⟨hpaused, hheld, rfl, hreaches⟩
  · rintro ⟨hpaused, hheld, rfl, hreaches⟩
    exact ⟨hpaused, hheld, odom, goal, rfl, rfl, hreaches⟩

/-- On return from an update that has a pose, or nothing to do, only the pause may differ:
the blackboard has it as it was before the update. -/
theorem update_mirrors (h : Synced gm nav)
    (hpose : nav.robotPose ≠ none ∨ gm.state = .idle) :
    let updated := gm.update getYaw nav readings
    updated.2.1.navigationState = some updated.1.state ∧
      updated.2.1.navigationPaused = some gm.paused ∧
      updated.2.1.goals.map (·.goals) = some updated.1.goals.goals ∧
      (updated.1.paused = gm.paused ↔ ¬ FinishesPaused getYaw gm nav) := by
  have hnoted := noted_synced h
  obtain ⟨hstate, hpaused, -⟩ := synced_nav h
  dsimp only
  rcases update_cases gm getYaw nav readings with
    ⟨hidle, heq⟩ | ⟨hactive, hwaiting, -⟩ | ⟨odom, goal, goals, hactive, hodom, hgoals, heq⟩
  · rw [heq]
    obtain ⟨hupdated, hidle', hsame, hstate', hpaused', hgoals'⟩ :=
      updateIdle_synced hnoted hidle readings.subscribed
    refine ⟨?_, hpaused'.trans hpaused, ?_, ?_⟩
    · rw [hstate', hstate, hidle', hidle]
    · have hempty : ¬ MissionState.idle = .active := by decide
      rw [hgoals', not_not.mp (mt hupdated.wellFormed.active_iff.mpr (by
        rw [hidle']
        exact hempty))]
    · refine iff_of_true hsame ?_
      rintro ⟨hpause, -⟩
      rw [h.wellFormed.idle_paused hidle] at hpause
      contradiction
  · rcases hwaiting with hnone | hempty
    · rcases hpose with hpose | hidle
      · exact absurd hnone hpose
      · rw [hactive] at hidle
        contradiction
    · exact absurd hempty (h.wellFormed.active_iff.mp hactive)
  · rw [heq]
    obtain ⟨-, hstate', hpaused', hgoals', hpause⟩ :=
      updateActive_synced getYaw odom goal.pose readings hnoted hactive
    refine ⟨hstate', hpaused'.trans hpaused, hgoals', ?_⟩
    refine hpause.trans (not_congr ?_)
    rw [progressed_goals, progress_goals_eq_nil_iff (noted gm) getYaw hgoals]
    exact (finishesPaused_iff getYaw hodom hgoals).symm

end Update

section Runs

variable {getYaw : Quaternion → Double} {shared : Shared}

theorem start_synced (h : Start shared) : Synced shared.manager shared.nav := by
  obtain ⟨params, nav, hmanager, hnav⟩ := h
  rw [hmanager, hnav]
  exact ⟨create_wellFormed params nav, rfl, rfl, fun _ => rfl, fun _ => rfl⟩

theorem setEnded_synced {gm : GoalManager} {nav : NavState} (h : Synced gm nav)
    (type : ControlType) (statusMessage : String) (now : Time) :
    Synced (gm.setEnded type statusMessage now).1 nav :=
  h.of_sameSynced (wellFormed_of_idle rfl rfl rfl) ⟨rfl, rfl, fun h => h, fun _ _ => rfl⟩

theorem step_synced (h : Synced shared.manager shared.nav) (e : Event) :
    Synced (step getYaw shared e).manager (step getYaw shared e).nav := by
  have hgiven : ∀ others, Synced shared.manager (shared.given others) :=
    fun others => ⟨h.wellFormed, h.navigationState, h.navigationPaused, h.idle, h.goals⟩
  have hcontrol : ∀ msg readings,
      Synced (shared.manager.controlCallback msg readings).1 shared.nav := fun msg readings =>
    h.of_sameSynced (controlCallback_wellFormed h.wellFormed readings)
      (controlCallback_sameSynced readings)
  cases e with
  | control msg readings => exact hcontrol msg readings
  | operation op =>
      cases op with
      | goalPose pose readings => exact hcontrol _ readings
      | setFinished now =>
          exact setEnded_synced h .finished "Navigation succesfully finished" now
      | setError reason now => exact setEnded_synced h .error reason now
      | setFailed reason now => exact setEnded_synced h .failed reason now
      | setProgressHeld held =>
          exact h.of_sameSynced (h.wellFormed.of_same ⟨rfl, rfl, rfl⟩ rfl)
            ⟨rfl, rfl, fun h => h, fun _ h => h⟩
      | readParameters params others =>
          exact ⟨h.wellFormed.of_same ⟨rfl, rfl, rfl⟩ rfl, h.navigationState,
            h.navigationPaused, h.idle, h.goals⟩
      | update others readings => exact update_synced getYaw readings (hgiven others)

/-- On return from an update that has a pose, or finds the manager idle, the blackboard
mirrors the manager, unless the mission was paused and reached its last goal nevertheless. -/
theorem mirrors_iff {past : List (Shared × Event)} (hrun : Run (step getYaw) Start shared past)
    (others : NavState) (readings : UpdateReadings)
    (hpose : others.robotPose ≠ none ∨ shared.manager.state = .idle) :
    let updated := shared.manager.update getYaw (shared.given others) readings
    Mirrors updated.1 updated.2.1 ↔
      ¬ FinishesPaused getYaw shared.manager (shared.given others) := by
  have h : Synced shared.manager shared.nav :=
    hrun.invariant_of_all (fun _ => start_synced) (fun _ e h => step_synced h e)
  have hgiven : Synced shared.manager (shared.given others) :=
    ⟨h.wellFormed, h.navigationState, h.navigationPaused, h.idle, h.goals⟩
  obtain ⟨hstate, hpaused, hgoals, hsame⟩ := update_mirrors getYaw readings hgiven hpose
  refine Iff.trans ?_ hsame
  constructor
  · intro hmirrors
    exact Option.some.inj (hmirrors.navigationPaused.symm.trans hpaused)
  · intro hsame
    exact ⟨hstate, hpaused.trans (congrArg some hsame.symm), hgoals⟩

def asking : Event := .control { userId := "robot", goals := { goals := [{}] } } {}

def pausing : Event := .control { type := .pause, userId := "robot" } {}

def atOrigin : Shared → Event → Shared := step fun _ => 0

def exampleShared : Shared :=
  { manager := (GoalManager.create {} {}).1, nav := (GoalManager.create {} {}).2 }

theorem mirrors_iff_finishing :
    let shared := atOrigin exampleShared asking
    let updated := shared.manager.update (fun _ => 0)
      (shared.given { robotPose := some {} }) {}
    shared.manager.state = .active ∧ updated.1.state = .idle ∧ Mirrors updated.1 updated.2.1 := by
  have hrun : Run atOrigin Start (atOrigin exampleShared asking) [(exampleShared, asking)] :=
    (Run.init ⟨{}, {}, rfl, rfl⟩).next asking
  refine ⟨by decide +kernel, by decide +kernel, ?_⟩
  refine (mirrors_iff hrun { robotPose := some {} } {} (Or.inl (by simp))).mpr ?_
  rintro ⟨hpaused, -⟩
  revert hpaused
  decide +kernel

/-- A paused mission finishes: the blackboard still has it paused. -/
theorem not_mirrored_paused :
    ∃ shared past, Run atOrigin Start shared past ∧
      let updated := shared.manager.update (fun _ => 0)
        (shared.given { robotPose := some {} }) {}
      updated.1.state = .idle ∧ ¬ Mirrors updated.1 updated.2.1 := by
  have hstart : Run atOrigin Start exampleShared [] := .init ⟨{}, {}, rfl, rfl⟩
  refine ⟨_, _, hstart.foldl [asking, pausing], by decide +kernel, ?_⟩
  intro hmirrors
  have hpaused := hmirrors.navigationPaused
  revert hpaused
  decide +kernel

end Runs

end EasyNav.NavStateMirror
