import EasyNav.MissionInvariant

namespace EasyNav.MissionBookkeeping

open EasyNav.DoubleArithmetic
open EasyNav.NavigationState
open EasyNav.MissionMessages
open EasyNav.MissionServer
open EasyNav.MissionServer.GoalManager
open EasyNav.MissionInvariant

structure SameBookkeeping (a b : GoalManager) : Prop where
  paused : a.paused = b.paused
  infoFinalPending : a.infoFinalPending = b.infoFinalPending
  goalsSyncedEmpty : a.goalsSyncedEmpty = b.goalsSyncedEmpty
  lastSyncedNavigationState : a.lastSyncedNavigationState = b.lastSyncedNavigationState
  lastSyncedPaused : a.lastSyncedPaused = b.lastSyncedPaused

theorem SameBookkeeping.trans {a b c : GoalManager} (hab : SameBookkeeping a b)
    (hbc : SameBookkeeping b c) : SameBookkeeping a c :=
  ⟨hab.paused.trans hbc.paused, hab.infoFinalPending.trans hbc.infoFinalPending,
    hab.goalsSyncedEmpty.trans hbc.goalsSyncedEmpty,
    hab.lastSyncedNavigationState.trans hbc.lastSyncedNavigationState,
    hab.lastSyncedPaused.trans hbc.lastSyncedPaused⟩

/-- The manager once it knows that the blackboard has its state and its pause. -/
def noted (gm : GoalManager) : GoalManager :=
  { gm with lastSyncedNavigationState := gm.state, lastSyncedPaused := gm.paused }

/-- The manager once an update has reported and taken the first goal, if it is reached. -/
def progressed (gm : GoalManager) (getYaw : Quaternion → Double) (odom : Odometry)
    (firstGoal : Pose) (readings : UpdateReadings) : GoalManager :=
  ((gm.publishFeedback (gm.feedback odom firstGoal readings) readings).1.updateInfo
    (gm.feedback odom firstGoal readings).distanceToGoal
    (calculateAngle getYaw odom.pose firstGoal)).progress getYaw odom.pose

variable (gm : GoalManager)

section Synced

theorem syncState_eq (nav : NavState) :
    (gm.syncState nav).1 = { gm with lastSyncedNavigationState := gm.state } := by
  unfold syncState
  split
  · rfl
  · rename_i hsame
    cases gm
    rw [ne_eq, not_not] at hsame
    dsimp only at hsame ⊢
    rw [hsame]

theorem syncPaused_eq (nav : NavState) :
    (gm.syncPaused nav).1 = { gm with lastSyncedPaused := gm.paused } := by
  unfold syncPaused
  split
  · rfl
  · rename_i hsame
    cases gm
    rw [ne_eq, not_not] at hsame
    dsimp only at hsame ⊢
    rw [hsame]

theorem synced_eq (nav : NavState) : (synced gm nav).1 = noted gm := by
  unfold synced noted
  dsimp only
  rw [syncPaused_eq, syncState_eq]

end Synced

section Progressed

variable (getYaw : Quaternion → Double)

theorem progress_sameBookkeeping (pose : Pose) :
    SameBookkeeping (gm.progress getYaw pose) gm := by
  rcases gm.progress_cases getYaw pose with h | ⟨goal, goals, -, -, -, h⟩
  · rw [h]
    exact ⟨rfl, rfl, rfl, rfl, rfl⟩
  · rw [h]
    exact ⟨rfl, rfl, rfl, rfl, rfl⟩

variable (odom : Odometry) (firstGoal : Pose) (readings : UpdateReadings)

theorem progressed_sameBookkeeping :
    SameBookkeeping (progressed gm getYaw odom firstGoal readings) gm := by
  unfold progressed
  refine (progress_sameBookkeeping _ getYaw odom.pose).trans ?_
  unfold publishFeedback
  split
  · exact ⟨rfl, rfl, rfl, rfl, rfl⟩
  · exact ⟨rfl, rfl, rfl, rfl, rfl⟩

theorem progressed_state : (progressed gm getYaw odom firstGoal readings).state = gm.state := by
  unfold progressed
  rw [(progress_same _ getYaw odom.pose).1, (updateInfo_same _ _ _).1.state,
    (gm.publishFeedback_same odom firstGoal readings).1.state]

theorem progressed_goals :
    (progressed gm getYaw odom firstGoal readings).goals =
      (gm.progress getYaw odom.pose).goals := by
  obtain ⟨hreported, hreported', -⟩ := gm.publishFeedback_same odom firstGoal readings
  obtain ⟨hinformed, hinformed'⟩ := (gm.publishFeedback (gm.feedback odom firstGoal readings)
    readings).1.updateInfo_same (gm.feedback odom firstGoal readings).distanceToGoal
    (calculateAngle getYaw odom.pose firstGoal)
  exact progress_goals_congr getYaw (hinformed.trans hreported) (hinformed'.trans hreported')
    odom.pose

theorem progress_goals_eq_nil_iff {goal : PoseStamped} {goals : List PoseStamped}
    (hgoals : gm.goals.goals = goal :: goals) (pose : Pose) :
    (gm.progress getYaw pose).goals.goals = [] ↔
      gm.progressHeld = false ∧ goals = [] ∧
        reaches getYaw pose goal.pose gm.goalTolerance = true := by
  unfold progress checkGoals
  rw [hgoals]
  dsimp only
  cases gm.progressHeld with
  | true => simp [hgoals]
  | false =>
      cases reaches getYaw pose goal.pose gm.goalTolerance with
      | true => simp
      | false => simp [hgoals]

end Progressed

section UpdateActive

variable (getYaw : Quaternion → Double) (nav : NavState) (odom : Odometry) (firstGoal : Pose)
  (readings : UpdateReadings)

theorem updateActive_eq :
    gm.updateActive getYaw nav odom firstGoal readings =
      let left := progressed gm getYaw odom firstGoal readings
      let finished := left.finishIfDone readings.finished
      let synced := finished.1.syncState (left.syncGoals nav)
      let published := synced.1.publishInfo (gm.shouldPublish readings) readings.subscribed
      (published.1, synced.2,
        { control := (gm.publishFeedback (gm.feedback odom firstGoal readings) readings).2 ++
            finished.2
          info := published.2 }) := rfl

theorem publishInfo_of_active (hactive : gm.state = .active) (publishing subscribed : Bool) :
    SameMission (gm.publishInfo publishing subscribed).1 gm ∧
      SameBookkeeping (gm.publishInfo publishing subscribed).1 gm ∧
      ∀ info ∈ (gm.publishInfo publishing subscribed).2, info.status = .active := by
  unfold publishInfo
  rw [if_neg (by rw [hactive]; decide)]
  split
  · refine ⟨⟨rfl, rfl, rfl⟩, ⟨rfl, rfl, rfl, rfl, rfl⟩, ?_⟩
    intro info hinfo
    rw [List.mem_singleton.mp hinfo]
  · exact ⟨⟨rfl, rfl, rfl⟩, ⟨rfl, rfl, rfl, rfl, rfl⟩, by simp⟩

variable {gm odom firstGoal readings}

theorem updateActive_of_left (hactive : gm.state = .active)
    (hleft : (progressed gm getYaw odom firstGoal readings).goals.goals ≠ []) :
    let left := progressed gm getYaw odom firstGoal readings
    let updated := gm.updateActive getYaw nav odom firstGoal readings
    SameMission updated.1 left ∧
      SameBookkeeping updated.1 { left with lastSyncedNavigationState := left.state } ∧
      updated.2.1 = (left.syncState (left.syncGoals nav)).2 ∧
      ∀ info ∈ updated.2.2.info, info.status = .active := by
  have hstate := (progressed_state gm getYaw odom firstGoal readings).trans hactive
  rw [updateActive_eq]
  dsimp only
  generalize progressed gm getYaw odom firstGoal readings = left at hstate hleft ⊢
  rcases left.finishIfDone_cases readings.finished with ⟨-, hfinish⟩ | ⟨hdone, -⟩
  · rw [hfinish]
    dsimp only
    rw [syncState_eq]
    obtain ⟨hmission, hkept, hinfo⟩ := publishInfo_of_active
      { left with lastSyncedNavigationState := left.state } hstate (gm.shouldPublish readings)
      readings.subscribed
    exact ⟨hmission.trans ⟨rfl, rfl, rfl⟩, hkept, rfl, hinfo⟩
  · exact absurd hdone hleft

theorem updateActive_of_done
    (hdone : (progressed gm getYaw odom firstGoal readings).goals.goals = []) :
    let left := progressed gm getYaw odom firstGoal readings
    let ended := (left.setFinished readings.finished).1
    let published := GoalManager.publishFinalInfo
      { ended with lastSyncedNavigationState := .idle } readings.subscribed
    let updated := gm.updateActive getYaw nav odom firstGoal readings
    updated.1 = published.1 ∧ updated.2.1 = (ended.syncState (left.syncGoals nav)).2 ∧
      updated.2.2.info = published.2 := by
  rw [updateActive_eq]
  dsimp only
  generalize progressed gm getYaw odom firstGoal readings = left at hdone ⊢
  rcases left.finishIfDone_cases readings.finished with ⟨hleft, -⟩ | ⟨-, hfinish⟩
  · exact absurd hdone hleft
  · rw [hfinish]
    dsimp only
    rw [syncState_eq]
    exact ⟨rfl, rfl, rfl⟩

end UpdateActive

section Update

variable (getYaw : Quaternion → Double) (nav : NavState) (readings : UpdateReadings)

theorem update_cases :
    (gm.state = .idle ∧ gm.update getYaw nav readings =
        (noted gm).updateIdle (synced gm nav).2 readings.subscribed) ∨
      (gm.state = .active ∧ (nav.robotPose = none ∨ gm.goals.goals = []) ∧
        gm.update getYaw nav readings = (noted gm, (synced gm nav).2, {})) ∨
      ∃ odom goal goals, gm.state = .active ∧ nav.robotPose = some odom ∧
        gm.goals.goals = goal :: goals ∧ gm.update getYaw nav readings =
          (noted gm).updateActive getYaw (synced gm nav).2 odom goal.pose readings := by
  rw [← synced_eq gm nav]
  cases hstate : gm.state with
  | idle => exact Or.inl ⟨rfl, update_of_idle getYaw hstate readings⟩
  | active =>
      cases hpose : nav.robotPose with
      | none =>
          exact Or.inr (Or.inl ⟨rfl, Or.inl rfl, update_of_no_pose getYaw hstate hpose readings⟩)
      | some odom =>
          cases hgoals : gm.goals.goals with
          | nil =>
              exact Or.inr (Or.inl
                ⟨rfl, Or.inr rfl, update_of_no_goal getYaw hstate hgoals readings⟩)
          | cons goal goals =>
              exact Or.inr (Or.inr ⟨odom, goal, goals, rfl, rfl, rfl,
                update_of_goal getYaw hstate hpose hgoals readings⟩)

theorem publishFinalInfo_paused (subscribed : Bool) :
    (gm.publishFinalInfo subscribed).1.paused = gm.paused := by
  unfold publishFinalInfo
  split <;> rfl

/-- An update pauses no mission and resumes none; at most, it ends it. -/
theorem update_paused :
    (gm.update getYaw nav readings).1.paused = gm.paused ∨
      (gm.update getYaw nav readings).1.state = .idle := by
  rcases update_cases gm getYaw nav readings with
    ⟨hidle, h⟩ | ⟨-, -, h⟩ | ⟨odom, goal, goals, hactive, -, -, h⟩
  · refine Or.inl ?_
    rw [h]
    unfold updateIdle
    dsimp only
    split
    · exact publishFinalInfo_paused (noted gm) _
    · exact publishFinalInfo_paused (noted gm) _
  · rw [h]
    exact Or.inl rfl
  · rw [h]
    by_cases hdone : (progressed (noted gm) getYaw odom goal.pose readings).goals.goals = []
    · rw [(updateActive_of_done getYaw _ hdone).1]
      refine Or.inr ?_
      unfold publishFinalInfo
      split <;> rfl
    · have hactive : (noted gm).state = .active := hactive
      obtain ⟨-, hkept, -⟩ := updateActive_of_left getYaw (synced gm nav).2 hactive hdone
      rw [hkept.paused]
      exact Or.inl (progressed_sameBookkeeping (noted gm) getYaw odom goal.pose readings).paused

end Update

end EasyNav.MissionBookkeeping
