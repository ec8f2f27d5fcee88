import EasyNav.MissionServer
import EasyNav.Runs

namespace EasyNav.MissionInvariant

open EasyNav.DoubleArithmetic
open EasyNav.NavigationState
open EasyNav.MissionMessages
open EasyNav.MissionServer
open EasyNav.MissionServer.GoalManager
open EasyNav.Runs

/-- The relation of the state, the goals and the pause between two operations. -/
structure WellFormed (gm : GoalManager) : Prop where
  active_iff : gm.state = .active ↔ gm.goals.goals ≠ []
  active_of_paused : gm.paused = true → gm.state = .active

theorem WellFormed.of_same {a b : GoalManager} (h : WellFormed b) (hmission : SameMission a b)
    (hpaused : a.paused = b.paused) : WellFormed a := by
  constructor
  · rw [hmission.state, hmission.goals]
    exact h.active_iff
  · rw [hmission.state, hpaused]
    exact h.active_of_paused

theorem wellFormed_of_idle {gm : GoalManager} (hstate : gm.state = .idle)
    (hgoals : gm.goals.goals = []) (hpaused : gm.paused = false) : WellFormed gm := by
  constructor
  · rw [hstate, hgoals]
    simp
  · rw [hpaused]
    simp

theorem wellFormed_of_active {gm : GoalManager} (hstate : gm.state = .active)
    (hgoals : gm.goals.goals ≠ []) : WellFormed gm :=
  ⟨iff_of_true hstate hgoals, fun _ => hstate⟩

theorem WellFormed.idle_paused {gm : GoalManager} (h : WellFormed gm)
    (hstate : gm.state = .idle) : gm.paused = false := by
  cases hpaused : gm.paused with
  | false => rfl
  | true =>
      have hactive := h.active_of_paused hpaused
      rw [hstate] at hactive
      contradiction

theorem create_wellFormed (params : GoalParameters) (nav : NavState) :
    WellFormed (GoalManager.create params nav).1 :=
  wellFormed_of_idle rfl rfl rfl

section Control

variable {gm : GoalManager} {msg : NavigationControl}

theorem controlCallback_wellFormed (h : WellFormed gm) (readings : ControlReadings) :
    WellFormed (gm.controlCallback msg readings).1 := by
  have hkeep : ∀ gm' : GoalManager, WellFormed gm' →
      WellFormed { gm' with lastControl := msg } :=
    fun gm' hgm' => hgm'.of_same ⟨rfl, rfl, rfl⟩ rfl
  rcases gm.controlCallback_commanded msg readings with hsame | ⟨gm', hgm', hsame⟩
  · rw [hsame]
    exact h
  · rw [hsame]
    apply hkeep
    cases hgm' with
    | kept => exact h
    | accepted start revision hgoals => exact wellFormed_of_active rfl hgoals
    | cancelled hactive => exact wellFormed_of_idle rfl rfl rfl
    | paused paused hactive => exact wellFormed_of_active hactive (h.active_iff.mp hactive)

end Control

section Updating

variable {gm : GoalManager}

theorem syncState_wellFormed (h : WellFormed gm) (nav : NavState) :
    WellFormed (gm.syncState nav).1 := by
  rw [syncState]
  split
  · exact h.of_same ⟨rfl, rfl, rfl⟩ rfl
  · exact h

theorem syncPaused_wellFormed (h : WellFormed gm) (nav : NavState) :
    WellFormed (gm.syncPaused nav).1 := by
  rw [syncPaused]
  split
  · exact h.of_same ⟨rfl, rfl, rfl⟩ rfl
  · exact h

theorem publishFinalInfo_wellFormed (h : WellFormed gm) (subscribed : Bool) :
    WellFormed (gm.publishFinalInfo subscribed).1 := by
  rw [publishFinalInfo]
  split
  · exact h
  · exact h.of_same ⟨rfl, rfl, rfl⟩ rfl

theorem publishInfo_wellFormed (h : WellFormed gm) (publishing subscribed : Bool) :
    WellFormed (gm.publishInfo publishing subscribed).1 := by
  rw [publishInfo]
  split
  · exact publishFinalInfo_wellFormed h subscribed
  · split
    · exact h.of_same ⟨rfl, rfl, rfl⟩ rfl
    · exact h

theorem finishIfDone_wellFormed (hactive : gm.state = .active) (now : Time) :
    WellFormed (gm.finishIfDone now).1 := by
  rcases gm.finishIfDone_cases now with ⟨hleft, hfinish⟩ | ⟨-, hfinish⟩
  · rw [hfinish]
    exact wellFormed_of_active hactive hleft
  · rw [hfinish]
    exact wellFormed_of_idle rfl rfl rfl

theorem updateIdle_wellFormed (h : WellFormed gm) (hidle : gm.state = .idle) (nav : NavState)
    (subscribed : Bool) : WellFormed (gm.updateIdle nav subscribed).1 := by
  have hinfo := publishFinalInfo_wellFormed h subscribed
  have hstate := (gm.publishFinalInfo_same subscribed).1.state.trans hidle
  rw [updateIdle]
  dsimp only
  split
  · exact hinfo
  · exact wellFormed_of_idle hstate rfl (hinfo.idle_paused hstate)

variable (getYaw : Quaternion → Double)

/-- Erasing a goal may leave an active mission without one, until it is finished in the
same update. -/
theorem updateActive_wellFormed (hactive : gm.state = .active) (nav : NavState)
    (odom : Odometry) (firstGoal : Pose) (readings : UpdateReadings) :
    WellFormed (gm.updateActive getYaw nav odom firstGoal readings).1 := by
  rw [updateActive]
  dsimp only
  apply publishInfo_wellFormed
  apply syncState_wellFormed
  apply finishIfDone_wellFormed
  rw [(progress_same _ getYaw odom.pose).1, (updateInfo_same _ _ _).1.state,
    (gm.publishFeedback_same odom firstGoal readings).1.state]
  exact hactive

/-- The manager and the blackboard once an update has told them the state. -/
def synced (gm : GoalManager) (nav : NavState) : GoalManager × NavState :=
  let (gm, nav) := gm.syncState nav
  let (gm, nav) := gm.syncPaused nav
  (gm, gm.publishTolerances nav)

theorem synced_sameMission (gm : GoalManager) (nav : NavState) :
    SameMission (synced gm nav).1 gm :=
  ((gm.syncState nav).1.syncPaused_same (gm.syncState nav).2).1.trans (gm.syncState_same nav).1

theorem synced_robotPose (gm : GoalManager) (nav : NavState) :
    (synced gm nav).2.robotPose = nav.robotPose :=
  ((gm.syncState nav).1.syncPaused_same (gm.syncState nav).2).2.2.trans
    (gm.syncState_same nav).2.2

theorem syncGoals_goals (gm : GoalManager) (nav : NavState) :
    (gm.syncGoals nav).goals = some gm.goals := by
  unfold syncGoals
  split
  · rfl
  · rename_i goals hgoals
    split
    · rename_i heq
      rw [hgoals, Goals.eq_of_eq heq]
    · rfl

/-- The cases of an update: those that the manager and the blackboard are in before it. -/
theorem update_eq (nav : NavState) (readings : UpdateReadings) :
    gm.update getYaw nav readings =
      match gm.state with
      | .idle => (synced gm nav).1.updateIdle (synced gm nav).2 readings.subscribed
      | .active =>
          match nav.robotPose, gm.goals.goals with
          | none, _ => ((synced gm nav).1, (synced gm nav).2, {})
          | some odom, firstGoal :: _ =>
              (synced gm nav).1.updateActive getYaw (synced gm nav).2 odom firstGoal.pose readings
          | some _, [] => ((synced gm nav).1, (synced gm nav).2, {}) := by
  have hmission := synced_sameMission gm nav
  rw [← hmission.state, ← hmission.goals, ← synced_robotPose gm nav]
  rfl

theorem update_of_idle {nav : NavState} (hidle : gm.state = .idle) (readings : UpdateReadings) :
    gm.update getYaw nav readings =
      (synced gm nav).1.updateIdle (synced gm nav).2 readings.subscribed := by
  rw [update_eq, hidle]

theorem update_of_no_pose {nav : NavState} (hactive : gm.state = .active)
    (hpose : nav.robotPose = none) (readings : UpdateReadings) :
    gm.update getYaw nav readings = ((synced gm nav).1, (synced gm nav).2, {}) := by
  rw [update_eq, hactive, hpose]

theorem update_of_no_goal {nav : NavState} (hactive : gm.state = .active)
    (hgoals : gm.goals.goals = []) (readings : UpdateReadings) :
    gm.update getYaw nav readings = ((synced gm nav).1, (synced gm nav).2, {}) := by
  rw [update_eq, hactive, hgoals]
  cases nav.robotPose <;> rfl

theorem update_of_goal {nav : NavState} {odom : Odometry} {firstGoal : PoseStamped}
    {goals : List PoseStamped} (hactive : gm.state = .active) (hpose : nav.robotPose = some odom)
    (hgoals : gm.goals.goals = firstGoal :: goals) (readings : UpdateReadings) :
    gm.update getYaw nav readings =
      (synced gm nav).1.updateActive getYaw (synced gm nav).2 odom firstGoal.pose readings := by
  rw [update_eq, hactive, hpose, hgoals]

theorem update_wellFormed (h : WellFormed gm) (nav : NavState) (readings : UpdateReadings) :
    WellFormed (gm.update getYaw nav readings).1 := by
  have hsynced : WellFormed (synced gm nav).1 :=
    syncPaused_wellFormed (syncState_wellFormed h nav) _
  have hstate := (synced_sameMission gm nav).state
  rw [update_eq]
  split
  · rename_i hidle
    exact updateIdle_wellFormed hsynced (hstate.trans hidle) _ _
  · rename_i hactive
    split
    · exact hsynced
    · exact updateActive_wellFormed getYaw (hstate.trans hactive) _ _ _ _
    · exact hsynced

end Updating

section Runs

variable (getYaw : Quaternion → Double)

def step (gm : GoalManager) (e : Event) : GoalManager := (gm.handle getYaw e).1

def Start (gm : GoalManager) : Prop :=
  ∃ (params : GoalParameters) (nav : NavState), gm = (GoalManager.create params nav).1

theorem step_wellFormed {gm : GoalManager} (h : WellFormed gm) (e : Event) :
    WellFormed (step getYaw gm e) := by
  cases e with
  | control msg readings => exact controlCallback_wellFormed h readings
  | operation op =>
      cases op with
      | goalPose pose readings => exact controlCallback_wellFormed h readings
      | setFinished now => exact wellFormed_of_idle rfl rfl rfl
      | setError reason now => exact wellFormed_of_idle rfl rfl rfl
      | setFailed reason now => exact wellFormed_of_idle rfl rfl rfl
      | setProgressHeld held => exact h.of_same ⟨rfl, rfl, rfl⟩ rfl
      | readParameters params nav => exact h.of_same ⟨rfl, rfl, rfl⟩ rfl
      | update nav readings => exact update_wellFormed getYaw h nav readings

variable {getYaw} {gm : GoalManager} {past : List (GoalManager × Event)}

theorem run_wellFormed (hrun : Run (step getYaw) Start gm past) : WellFormed gm := by
  refine hrun.invariant_of_all ?_ ?_
  · rintro s ⟨params, nav, rfl⟩
    exact create_wellFormed params nav
  · intro s e hs
    exact step_wellFormed getYaw hs e

/-- Whatever the operations were: the manager is active exactly while it has goals, it is
paused only while active, and an update that comes to the first goal finds one. -/
theorem active_iff_has_goals (hrun : Run (step getYaw) Start gm past) :
    (gm.state = .active ↔ gm.goals.goals ≠ []) ∧
      (gm.paused = true → gm.state = .active) ∧
      ∀ (nav : NavState) (odom : Odometry) (readings : UpdateReadings),
        gm.state = .active → nav.robotPose = some odom →
          ∃ firstGoal goals, gm.goals.goals = firstGoal :: goals ∧
            gm.update getYaw nav readings =
              (synced gm nav).1.updateActive getYaw (synced gm nav).2 odom firstGoal.pose
                readings := by
  have h := run_wellFormed hrun
  refine ⟨h.active_iff, h.active_of_paused, ?_⟩
  intro nav odom readings hactive hpose
  obtain ⟨firstGoal, goals, hgoals⟩ := List.exists_cons_of_ne_nil (h.active_iff.mp hactive)
  exact ⟨firstGoal, goals, hgoals, update_of_goal getYaw hactive hpose hgoals readings⟩

/-- A mission of two goals, paused at the first one. -/
theorem active_iff_has_goals_paused :
    let request : Event := .control
      { userId := "robot", goals := { goals := [{}, {}] } } {}
    let pause : Event := .control { type := .pause, userId := "operator" } {}
    let atGoal : Event := .operation (.update { robotPose := some {} } {})
    let gm := [request, pause, atGoal].foldl (step fun _ => 0) (GoalManager.create {} {}).1
    gm.state = .active ∧ gm.paused = true ∧ gm.goals.goals = [{}] ∧
      (gm.state = .active ↔ gm.goals.goals ≠ []) := by
  have hstart : Run (step fun _ => 0) Start (GoalManager.create {} {}).1 [] :=
    .init ⟨{}, {}, rfl⟩
  refine ⟨by decide +kernel, by decide +kernel, by decide +kernel, ?_⟩
  exact (active_iff_has_goals (((hstart.next _).next _).next _)).1

end Runs

end EasyNav.MissionInvariant
