import EasyNav.PlanForcing

namespace EasyNav.GoalsRevision

open EasyNav.DoubleArithmetic
open EasyNav.NavigationState
open EasyNav.MissionMessages
open EasyNav.MissionServer
open EasyNav.MissionServer.GoalManager
open EasyNav.MissionInvariant
open EasyNav.PlanForcing (SameGoals synced_sameGoals syncState_sameGoals publishInfo_sameGoals
  publishFinalInfo_sameGoals publishFeedback_sameGoals handlePause_sameGoals
  handleResume_sameGoals)
open EasyNav.Runs

/-- A preemption by another client clears the goals before the new ones are assigned. -/
def requestWrites (gm : GoalManager) (msg : NavigationControl) : Nat :=
  if msg.goals.goals.isEmpty then 0
  else if gm.state = .idle then 1
  else if gm.allowPreemptGoal then if msg.userId ≠ gm.currentClientId then 2 else 1
  else 0

def cancelWrites (gm : GoalManager) (msg : NavigationControl) : Nat :=
  if gm.currentClientId ≠ msg.userId then 0 else if gm.state = .idle then 0 else 1

def controlWrites (gm : GoalManager) (msg : NavigationControl) : Nat :=
  if msg.userId = GoalManager.id then 0
  else
    match msg.type with
    | .request => requestWrites gm msg
    | .cancel => cancelWrites gm msg
    | _ => 0

/-- The first goal is erased once it is reached, and the mission ends with the last one. -/
def activeWrites (getYaw : Quaternion → Double) (gm : GoalManager) (pose firstGoal : Pose)
    (goals : List PoseStamped) : Nat :=
  if gm.progressHeld || !reaches getYaw pose firstGoal gm.goalTolerance then 0
  else if goals.isEmpty then 2
  else 1

def updateWrites (getYaw : Quaternion → Double) (gm : GoalManager) (nav : NavState) : Nat :=
  match gm.state with
  | .idle => if gm.goalsSyncedEmpty then 0 else 1
  | .active =>
      match nav.robotPose, gm.goals.goals with
      | some odom, firstGoal :: goals => activeWrites getYaw gm odom.pose firstGoal.pose goals
      | _, _ => 0

/-- How often an operation assigns, clears or erases the goals. -/
def writes (getYaw : Quaternion → Double) (gm : GoalManager) : Event → Nat
  | .control msg _ => controlWrites gm msg
  | .operation (.goalPose pose _) => controlWrites gm (gm.poseRequest pose)
  | .operation (.setFinished _) => 1
  | .operation (.setError _ _) => 1
  | .operation (.setFailed _ _) => 1
  | .operation (.setProgressHeld _) => 0
  | .operation (.readParameters _ _) => 0
  | .operation (.update nav _) => updateWrites getYaw gm nav

/-- `a` is left by an operation on `b` that writes the goals so often. -/
structure Written (a b : GoalManager) (n : Nat) : Prop where
  goalsRevision : a.goalsRevision = b.goalsRevision + UInt64.ofNat n
  goals : n = 0 → a.goals = b.goals

section Writing

variable {a b c gm : GoalManager} {m n : Nat}

theorem Written.of_same (h : SameGoals a b) : Written a b 0 := by
  constructor
  · simp [h.goalsRevision]
  · exact fun _ => h.goals

theorem Written.of_once (h : a.goalsRevision = b.goalsRevision + 1) : Written a b 1 := by
  constructor
  · exact h
  · exact fun hzero => absurd hzero one_ne_zero

theorem Written.trans (hab : Written a b m) (hbc : Written b c n) : Written a c (n + m) := by
  constructor
  · rw [hab.goalsRevision, hbc.goalsRevision, UInt64.ofNat_add, UInt64.add_assoc]
  · intro hzero
    rw [hab.goals (by omega), hbc.goals (by omega)]

theorem Written.same_trans (hab : SameGoals a b) (hbc : Written b c n) : Written a c n :=
  (Written.of_same hab).trans hbc

theorem Written.trans_same (hab : Written a b n) (hbc : SameGoals b c) : Written a c n := by
  simpa using hab.trans (.of_same hbc)

theorem handleRequest_written (msg base : NavigationControl) (readings : ControlReadings) :
    Written (gm.handleRequest msg base readings).2.1 gm (requestWrites gm msg) := by
  simp only [handleRequest, requestWrites]
  split
  · exact .of_same (.refl gm)
  · split
    · exact .of_once rfl
    · split
      · split
        · have hcleared : Written (gm.setPreempted readings.preempted).1 gm 1 := .of_once rfl
          have haccepted : Written ((gm.setPreempted readings.preempted).1.acceptRequest msg base
              readings.accepted).1 (gm.setPreempted readings.preempted).1 1 := .of_once rfl
          exact haccepted.trans hcleared
        · exact .of_once rfl
      · exact .of_same (.refl gm)

theorem handleCancel_written (msg base : NavigationControl) :
    Written (gm.handleCancel msg base).1 gm (cancelWrites gm msg) := by
  simp only [handleCancel, cancelWrites]
  split
  · exact .of_same (.refl gm)
  · split
    · exact .of_same (.refl gm)
    · exact .of_once rfl

theorem controlCallback_written (msg : NavigationControl) (readings : ControlReadings) :
    Written (gm.controlCallback msg readings).1 gm (controlWrites gm msg) := by
  have hkeep : ∀ {gm' : GoalManager} {n}, Written gm' gm n →
      Written { gm' with lastControl := msg } gm n :=
    fun {gm' _} h => Written.same_trans (b := gm') ⟨rfl, rfl, rfl⟩ h
  simp only [controlCallback, controlWrites]
  split
  · exact .of_same (.refl gm)
  · apply hkeep
    cases msg.type with
    | request => exact handleRequest_written msg _ readings
    | cancel => exact handleCancel_written msg _
    | pause => exact .of_same (handlePause_sameGoals msg _)
    | resume => exact .of_same (handleResume_sameGoals msg _)
    | _ => exact .of_same (.refl gm)

theorem updateIdle_written (nav : NavState) (subscribed : Bool) :
    Written (gm.updateIdle nav subscribed).1 gm (if gm.goalsSyncedEmpty then 0 else 1) := by
  have hinfo := publishFinalInfo_sameGoals gm subscribed
  have hempty : (gm.publishFinalInfo subscribed).1.goalsSyncedEmpty = gm.goalsSyncedEmpty := by
    simp only [publishFinalInfo]
    split <;> rfl
  simp only [updateIdle, hempty]
  split
  · exact .of_same hinfo
  · exact .of_once (congrArg (· + 1) hinfo.goalsRevision)

theorem finishIfDone_written (now : Time) :
    Written (gm.finishIfDone now).1 gm (if gm.goals.goals.isEmpty then 1 else 0) := by
  simp only [finishIfDone]
  split
  · exact .of_once rfl
  · exact .of_same (.refl gm)

variable (getYaw : Quaternion → Double)

theorem progress_eq {firstGoal : PoseStamped} {goals : List PoseStamped}
    (hgoals : gm.goals.goals = firstGoal :: goals) (pose : Pose) :
    gm.progress getYaw pose =
      if gm.progressHeld || !reaches getYaw pose firstGoal.pose gm.goalTolerance then gm
      else
        { gm with
          goals := { gm.goals with goals := goals }
          goalsRevision := gm.goalsRevision + 1 } := by
  simp only [progress, checkGoals, hgoals]
  cases gm.progressHeld with
  | true => rfl
  | false =>
      cases reaches getYaw pose firstGoal.pose gm.goalTolerance with
      | true => rfl
      | false => rfl

/-- Taking the first goal as reached, and ending the mission if it was the last one. -/
theorem progress_finish_written {firstGoal : PoseStamped} {goals : List PoseStamped}
    (hgoals : gm.goals.goals = firstGoal :: goals) (pose : Pose) (now : Time) :
    Written ((gm.progress getYaw pose).finishIfDone now).1 gm
      (activeWrites getYaw gm pose firstGoal.pose goals) := by
  have hfinish : Written ((gm.progress getYaw pose).finishIfDone now).1 _ _ :=
    finishIfDone_written now
  rw [progress_eq getYaw hgoals pose] at hfinish ⊢
  simp only [activeWrites]
  split
  · rename_i hstays
    simpa [hstays, hgoals] using hfinish
  · rename_i hreaches
    rw [if_neg hreaches] at hfinish
    have hreached : Written
        { gm with
          goals := { gm.goals with goals := goals }
          goalsRevision := gm.goalsRevision + 1 } gm 1 := .of_once rfl
    have hboth := hfinish.trans hreached
    dsimp only at hboth
    split
    · rename_i hlast
      rw [if_pos hlast] at hboth
      exact hboth
    · rename_i hleft
      rw [if_neg hleft] at hboth
      exact hboth

theorem updateActive_written {nav : NavState} {odom : Odometry} {firstGoal : PoseStamped}
    {goals : List PoseStamped} (hgoals : gm.goals.goals = firstGoal :: goals)
    (readings : UpdateReadings) :
    Written (gm.updateActive getYaw nav odom firstGoal.pose readings).1 gm
      (activeWrites getYaw gm odom.pose firstGoal.pose goals) := by
  simp only [updateActive]
  have hreported :=
    publishFeedback_sameGoals gm (gm.feedback odom firstGoal.pose readings) readings
  obtain ⟨-, hsettings, -⟩ := gm.publishFeedback_same odom firstGoal.pose readings
  have hinformed : SameGoals ((gm.publishFeedback (gm.feedback odom firstGoal.pose readings)
      readings).1.updateInfo (gm.feedback odom firstGoal.pose readings).distanceToGoal
        (calculateAngle getYaw odom.pose firstGoal.pose)) gm :=
    ⟨hreported.state, hreported.goals, hreported.goalsRevision⟩
  set informed := (gm.publishFeedback (gm.feedback odom firstGoal.pose readings)
    readings).1.updateInfo (gm.feedback odom firstGoal.pose readings).distanceToGoal
      (calculateAngle getYaw odom.pose firstGoal.pose)
  have hgoals' : informed.goals.goals = firstGoal :: goals := by
    rw [hinformed.goals, hgoals]
  have hfinished := progress_finish_written getYaw hgoals' odom.pose readings.finished
  have hsame : activeWrites getYaw informed odom.pose firstGoal.pose goals =
      activeWrites getYaw gm odom.pose firstGoal.pose goals := by
    have hheld : informed.progressHeld = gm.progressHeld := hsettings.progressHeld
    have htolerance : informed.goalTolerance = gm.goalTolerance := hsettings.goalTolerance
    simp only [activeWrites, hheld, htolerance]
  rw [hsame] at hfinished
  have hfinal := hfinished.trans_same hinformed
  exact .same_trans ((publishInfo_sameGoals _ _ _).trans (syncState_sameGoals _ _).1) hfinal

theorem update_written (nav : NavState) (readings : UpdateReadings) :
    Written (gm.update getYaw nav readings).1 gm (updateWrites getYaw gm nav) := by
  have hsynced := (synced_sameGoals gm nav).1
  simp only [updateWrites]
  split
  · rename_i hidle
    have hempty : (synced gm nav).1.goalsSyncedEmpty = gm.goalsSyncedEmpty := by
      simp only [synced, syncState, syncPaused]
      split <;> split <;> rfl
    rw [update_of_idle getYaw hidle, ← hempty]
    exact (updateIdle_written _ _).trans_same hsynced
  · rename_i hactive
    split
    · rename_i odom firstGoal goals hpose hgoals
      have hgoals' : (synced gm nav).1.goals.goals = firstGoal :: goals := by
        rw [hsynced.goals, hgoals]
      have hsettings : SameSettings (synced gm nav).1 gm :=
        ((gm.syncState nav).1.syncPaused_same (gm.syncState nav).2).2.1.trans
          (gm.syncState_same nav).2.1
      have hsame : activeWrites getYaw (synced gm nav).1 odom.pose firstGoal.pose goals =
          activeWrites getYaw gm odom.pose firstGoal.pose goals := by
        simp only [activeWrites, hsettings.progressHeld, hsettings.goalTolerance]
      rw [update_of_goal getYaw hactive hpose hgoals readings, ← hsame]
      exact (updateActive_written getYaw hgoals' readings).trans_same hsynced
    · rename_i hnone
      cases hpose : nav.robotPose with
      | none =>
          rw [update_of_no_pose getYaw hactive hpose readings]
          exact .of_same hsynced
      | some odom =>
          cases hgoals : gm.goals.goals with
          | nil =>
              rw [update_of_no_goal getYaw hactive hgoals readings]
              exact .of_same hsynced
          | cons firstGoal goals => exact absurd hgoals (hnone odom firstGoal goals hpose)

end Writing

section Runs

variable {getYaw : Quaternion → Double} {gm : GoalManager} {past : List (GoalManager × Event)}

theorem step_written (gm : GoalManager) (e : Event) :
    Written (step getYaw gm e) gm (writes getYaw gm e) := by
  cases e with
  | control msg readings => exact controlCallback_written msg readings
  | operation op =>
      cases op with
      | goalPose pose readings => exact controlCallback_written _ readings
      | setFinished now => exact .of_once rfl
      | setError reason now => exact .of_once rfl
      | setFailed reason now => exact .of_once rfl
      | setProgressHeld held => exact .of_same ⟨rfl, rfl, rfl⟩
      | readParameters params nav => exact .of_same ⟨rfl, rfl, rfl⟩
      | update nav readings => exact update_written getYaw nav readings

/-- As long as the goals have been written less than `2 ^ 64` times, they are the same
whenever their revision is. -/
theorem goals_eq_of_revision_eq (hrun : Run (step getYaw) Start gm past)
    (hfew : total (writes getYaw) past < 2 ^ 64) :
    ∀ a ∈ reached gm past, ∀ b ∈ reached gm past,
      a.goalsRevision = b.goalsRevision → a.goals = b.goals :=
  hrun.eq_of_counter_eq (writes getYaw) (fun gm e => (step_written gm e).goalsRevision)
    (fun gm e => (step_written gm e).goals) hfew

def pausedMission : List Event :=
  [.control { userId := "robot", goals := { goals := [{}] } } {},
    .control { type := .pause, userId := "operator" } {},
    .operation (.update { robotPose := some {} } {})]

def afterSteps (n : Nat) : GoalManager :=
  (pausedMission.take n).foldl (step fun _ => 0) (GoalManager.create {} {}).1

/-- Pausing writes no goals; erasing the last one and ending the mission are two more
writes. -/
theorem goals_eq_of_revision_eq_paused :
    (afterSteps 1).goals = (afterSteps 2).goals ∧
      (afterSteps 3).goalsRevision = (afterSteps 2).goalsRevision + 2 := by
  have hstart : Run (step fun _ => 0) Start (GoalManager.create {} {}).1 [] :=
    .init ⟨{}, {}, rfl⟩
  refine ⟨?_, by decide +kernel⟩
  apply goals_eq_of_revision_eq (hstart.foldl (pausedMission.take 2)) (by decide +kernel)
  · exact List.mem_cons_of_mem _ List.mem_cons_self
  · exact List.mem_cons_self
  · decide +kernel

end Runs

end EasyNav.GoalsRevision
