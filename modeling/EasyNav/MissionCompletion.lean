import EasyNav.MissionServer
import EasyNav.Runs
import Mathlib.Data.List.Forall2

namespace EasyNav.MissionCompletion

open EasyNav.ExtendedArithmetic
open EasyNav.ExtendedArithmetic.Extended
open EasyNav.DoubleArithmetic
open EasyNav.NavigationState
open EasyNav.MissionMessages
open EasyNav.MissionServer
open EasyNav.MissionServer.GoalManager
open EasyNav.Runs

/-- Finite and non-negative tolerances. -/
structure ExactTolerance where
  position : ℚ
  height : ℚ
  yaw : ℚ
  position_nonneg : 0 ≤ position
  height_nonneg : 0 ≤ height
  yaw_nonneg : 0 ≤ yaw

def ExactTolerance.toGoalTolerance (e : ExactTolerance) : GoalTolerance :=
  ⟨.fin e.position, .fin e.height, .fin e.yaw⟩

section Angles

theorem two_mul_mPi_pos : 0 < 2 * mPi := by
  unfold mPi
  norm_num

/-- The normalised angle differs by whole turns, and lies in the turn around zero. -/
theorem normAngle_fin (a : ℚ) :
    ∃ turns : ℤ, normAngle (.fin a) = .fin (a - turns * (2 * mPi)) ∧
      -mPi ≤ a - turns * (2 * mPi) ∧ a - turns * (2 * mPi) < mPi := by
  have hpos := two_mul_mPi_pos
  unfold normAngle fmod
  simp only [add_fin]
  split
  · rename_i hneg
    have hlow := Int.sub_floor_div_mul_nonneg (-(a + mPi)) hpos
    have hhigh := Int.sub_floor_div_mul_lt (-(a + mPi)) hpos
    set turns := ⌊-(a + mPi) / (2 * mPi)⌋
    simp only [Int.cast_neg, zero_def, fin_lt_fin]
    split
    · refine ⟨-turns - 1, ?_, ?_, ?_⟩
      · simp only [sub_fin, Extended.fin.injEq]
        push_cast
        ring
      · push_cast
        linarith
      · push_cast
        linarith
    · refine ⟨-turns, ?_, ?_, ?_⟩
      · simp only [sub_fin, Extended.fin.injEq]
        push_cast
        ring
      · push_cast
        linarith
      · push_cast
        linarith
  · rename_i hnonneg
    have hlow := Int.sub_floor_div_mul_nonneg (a + mPi) hpos
    have hhigh := Int.sub_floor_div_mul_lt (a + mPi) hpos
    set turns := ⌊(a + mPi) / (2 * mPi)⌋
    simp only [zero_def, fin_lt_fin]
    rw [if_neg (by linarith)]
    refine ⟨turns, ?_, ?_, ?_⟩
    · simp only [sub_fin, Extended.fin.injEq]
      ring
    · linarith
    · linarith

theorem normAngle_of_not_fin {a : Double} (h : a.isFinite = false) : normAngle a = .nan := by
  cases a with
  | fin a => contradiction
  | _ => rfl

variable {getYaw : Quaternion → Double} {pose goal : Pose} {t : ℚ}

/-- Within a tolerance, the yaws are numbers and differ by at most that up to whole
turns. -/
theorem yaw_of_calculateAngle_le
    (h : Extended.abs (calculateAngle getYaw pose goal) ≤ .fin t) :
    ∃ yaw yaw' : ℚ, getYaw pose.orientation = .fin yaw ∧ getYaw goal.orientation = .fin yaw' ∧
      ∃ turns : ℤ, |yaw - yaw' - turns * (2 * mPi)| ≤ t := by
  unfold calculateAngle at h
  dsimp only at h
  cases hdiff : getYaw pose.orientation - getYaw goal.orientation with
  | fin a =>
      obtain ⟨yaw, yaw', hyaw, hyaw', rfl⟩ := sub_eq_fin hdiff
      obtain ⟨turns, hnorm, -, -⟩ := normAngle_fin (yaw - yaw')
      rw [hdiff, hnorm, abs_fin, fin_le_fin] at h
      exact ⟨yaw, yaw', hyaw, hyaw', turns, h⟩
  | _ =>
      rw [hdiff, normAngle_of_not_fin rfl] at h
      exact absurd h (not_nan_le _)

end Angles

/-- The pose is within the tolerances of the goal. -/
structure Reached (getYaw : Quaternion → Double) (pose goal : Pose) (e : ExactTolerance) :
    Prop where
  isFinite : pose.isFinite = true
  distanceXy : ∃ x y x' y' : ℚ, pose.position.x = .fin x ∧ pose.position.y = .fin y ∧
    goal.position.x = .fin x' ∧ goal.position.y = .fin y' ∧
    Real.sqrt ((x - x') ^ 2 + (y - y') ^ 2) ≤ e.position
  height : ∃ z z' : ℚ, pose.position.z = .fin z ∧ goal.position.z = .fin z' ∧
    |z - z'| ≤ e.height
  yaw : ∃ yaw yaw' : ℚ, getYaw pose.orientation = .fin yaw ∧
    getYaw goal.orientation = .fin yaw' ∧ ∃ turns : ℤ, |yaw - yaw' - turns * (2 * mPi)| ≤ e.yaw

/-- The pose is finite, and the goal can be told apart from it. -/
def Comparable (pose goal : Pose) : Prop :=
  pose.isFinite = true ∧ goal.position.x ≠ .nan ∧ goal.position.y ≠ .nan ∧
    goal.position.z ≠ .nan

/-- One of the comparisons of `checkGoals` keeps the goal. -/
def Rejected (getYaw : Quaternion → Double) (pose goal : Pose) (tolerance : GoalTolerance) :
    Prop :=
  (calculateDistanceXy pose goal).exceeds tolerance.position = true ∨
    tolerance.height < Extended.abs (pose.position.z - goal.position.z) ∨
    ¬ Extended.abs (calculateAngle getYaw pose goal) ≤ tolerance.yaw

section Reaching

variable {getYaw : Quaternion → Double} {pose goal : Pose}

theorem reaches_iff {tolerance : GoalTolerance} :
    reaches getYaw pose goal tolerance = true ↔ ¬ Rejected getYaw pose goal tolerance := by
  unfold reaches Rejected
  by_cases hxy : (calculateDistanceXy pose goal).exceeds tolerance.position = true <;>
    by_cases hz : tolerance.height < Extended.abs (pose.position.z - goal.position.z) <;>
      simp [hxy, hz]

theorem sub_of_not_lt {a b : Double} (ha : a.isFinite = true) (hb : b ≠ .nan) {t : ℚ}
    (h : ¬ (.fin t < Extended.abs (a - b))) :
    ∃ x y : ℚ, a = .fin x ∧ b = .fin y ∧ |x - y| ≤ t := by
  obtain ⟨x, rfl⟩ := isFinite_iff.mp ha
  cases b with
  | nan => exact absurd rfl hb
  | negInf => exact absurd (fin_lt_posInf t) h
  | posInf => exact absurd (fin_lt_posInf t) h
  | fin y =>
      rw [sub_fin, abs_fin, fin_lt_fin, not_lt] at h
      exact ⟨x, y, rfl, rfl, h⟩

theorem sub_isInf {x : ℚ} {b : Double} (hb : b ≠ .nan) (hinf : b.isFinite = false) :
    ((.fin x - b : Double)).isInf = true := by
  cases b with
  | nan => exact absurd rfl hb
  | fin y => contradiction
  | _ => rfl

/-- A pose that the comparisons do not reject is within the tolerances, if they compare
numbers. -/
theorem reached_of_comparable (e : ExactTolerance) (hcomparable : Comparable pose goal)
    (h : ¬ Rejected getYaw pose goal e.toGoalTolerance) : Reached getYaw pose goal e := by
  obtain ⟨hfinite, hx, hy, hz⟩ := hcomparable
  unfold Rejected at h
  simp only [not_or, not_not, Bool.not_eq_true] at h
  obtain ⟨hxy, hheight, hyaw⟩ := h
  have hposition : pose.position.isFinite = true := (Bool.and_eq_true_iff.mp hfinite).1
  simp only [Vector3.isFinite, Bool.and_eq_true] at hposition
  obtain ⟨⟨hpx, hpy⟩, hpz⟩ := hposition
  refine ⟨hfinite, ?_, sub_of_not_lt hpz hz hheight, yaw_of_calculateAngle_le hyaw⟩
  obtain ⟨x, hx'⟩ := isFinite_iff.mp hpx
  obtain ⟨y, hy'⟩ := isFinite_iff.mp hpy
  unfold calculateDistanceXy Hypotenuse.hypot at hxy
  dsimp only at hxy
  rw [hx', hy'] at hxy
  split at hxy
  · exact absurd hxy (by simp [ExactTolerance.toGoalTolerance, Hypotenuse.exceeds_inf_fin])
  · rename_i hinf
    simp only [Bool.or_eq_true, not_or, Bool.not_eq_true] at hinf
    have hgx : goal.position.x.isFinite = true := by
      by_contra hnot
      rw [sub_isInf hx (by simpa using hnot)] at hinf
      exact absurd hinf.1 (by decide)
    have hgy : goal.position.y.isFinite = true := by
      by_contra hnot
      rw [sub_isInf hy (by simpa using hnot)] at hinf
      exact absurd hinf.2 (by decide)
    obtain ⟨x', hgx⟩ := isFinite_iff.mp hgx
    obtain ⟨y', hgy⟩ := isFinite_iff.mp hgy
    rw [hgx, hgy] at hxy
    simp only [sub_fin] at hxy
    refine ⟨x, y, x', y', hx', hy', hgx, hgy, ?_⟩
    have hroot := Hypotenuse.sqrt_le_of_not_exceeds hxy
    push_cast at hroot
    rw [sq, sq]
    exact hroot

/-- Taking the goal as reached is right exactly on the poses it can be compared with, and
on those that are rejected. -/
theorem reached_iff (e : ExactTolerance) :
    (reaches getYaw pose goal e.toGoalTolerance = true → Reached getYaw pose goal e) ↔
      Comparable pose goal ∨ Rejected getYaw pose goal e.toGoalTolerance := by
  rw [reaches_iff]
  constructor
  · intro h
    by_cases hrejected : Rejected getYaw pose goal e.toGoalTolerance
    · exact Or.inr hrejected
    · obtain ⟨hfinite, ⟨_, _, x', y', -, -, hx, hy, -⟩, ⟨_, z', -, hz, -⟩, -⟩ := h hrejected
      exact Or.inl ⟨hfinite, by simp [hx], by simp [hy], by simp [hz]⟩
  · rintro (hcomparable | hrejected) h
    · exact reached_of_comparable e hcomparable h
    · exact absurd hrejected h

end Reaching

section Missions

variable (getYaw : Quaternion → Double)

def step (gm : GoalManager) (e : Event) : GoalManager := (gm.handle getYaw e).1

/-- A new goal manager, with finite and non-negative tolerances. -/
def Start (gm : GoalManager) : Prop :=
  ∃ (params : GoalParameters) (nav : NavState) (e : ExactTolerance),
    params.goalTolerance = e.toGoalTolerance ∧ gm = (GoalManager.create params nav).1

/-- Tolerances that are read again are finite and non-negative too. -/
def ReadsTolerances : Event → Prop
  | .operation (.readParameters params _) =>
      ∃ e : ExactTolerance, params.goalTolerance = e.toGoalTolerance
  | _ => True

/-- An update whose pose decides about a goal compares numbers, or rejects the pose. -/
def ComparesNumbers (gm : GoalManager) : Event → Prop
  | .operation (.update nav _) =>
      ∀ odom firstGoal goals, gm.state = .active → gm.progressHeld = false →
        nav.robotPose = some odom → gm.goals.goals = firstGoal :: goals →
          Comparable odom.pose firstGoal.pose ∨
            Rejected getYaw odom.pose firstGoal.pose gm.goalTolerance
  | _ => True

def Accepts (goals : List PoseStamped) (p : GoalManager × Event) : Prop :=
  ∃ msg readings, p.1.command p.2 = some (msg, readings) ∧ msg.goals.goals = goals ∧
    ∃ response ∈ (p.1.handle getYaw p.2).2, response.type = .accept

/-- An update takes the goal as reached, the progress is not held, and the robot pose it
read is within the tolerances. -/
def Removes (goal : PoseStamped) (p : GoalManager × Event) : Prop :=
  ∃ nav readings odom goals e, p.2 = .operation (.update nav readings) ∧
    nav.robotPose = some odom ∧ p.1.progressHeld = false ∧
    p.1.goals.goals = goal :: goals ∧ (step getYaw p.1 p.2).goals.goals = goals ∧
    p.1.goalTolerance = e.toGoalTolerance ∧ Reached getYaw odom.pose goal.pose e

/-- The goals of the mission accepted last, and those left of it. -/
inductive MissionLog :
    List (GoalManager × Event) → List PoseStamped → List PoseStamped → Prop
  | accepted {p : GoalManager × Event} {past : List (GoalManager × Event)}
      {goals : List PoseStamped} (h : Accepts getYaw goals p) : MissionLog (p :: past) goals goals
  | removed {p : GoalManager × Event} {past : List (GoalManager × Event)}
      {goals rest : List PoseStamped} {goal : PoseStamped}
      (hlog : MissionLog past goals (goal :: rest))
      (h : Removes getYaw goal p) : MissionLog (p :: past) goals rest
  | kept {p : GoalManager × Event} {past : List (GoalManager × Event)}
      {goals rest : List PoseStamped} (hlog : MissionLog past goals rest)
      (h : ∀ goals, ¬ Accepts getYaw goals p) : MissionLog (p :: past) goals rest

variable {getYaw} {gm : GoalManager}

theorem not_accepts_of_command_none {e : Event} (h : gm.command e = none)
    (goals : List PoseStamped) : ¬ Accepts getYaw goals (gm, e) := by
  rintro ⟨msg, readings, hcommand, -⟩
  exact absurd (h.symm.trans hcommand) (by simp)

theorem not_accepts_of_removes {goal : PoseStamped} {p : GoalManager × Event}
    (h : Removes getYaw goal p) (goals : List PoseStamped) : ¬ Accepts getYaw goals p := by
  obtain ⟨nav, readings, -, -, -, he, -⟩ := h
  rcases p with ⟨gm, e⟩
  obtain rfl : e = _ := he
  exact not_accepts_of_command_none rfl goals

/-- The log spelled out: the goals that are not left were removed in order, in different
steps since the mission was accepted. -/
theorem MissionLog.explicit {past : List (GoalManager × Event)} {goals rest : List PoseStamped}
    (h : MissionLog getYaw past goals rest) :
    ∃ since accepted older removed updates, past = since ++ accepted :: older ∧
      Accepts getYaw goals accepted ∧ (∀ p ∈ since, ∀ goals, ¬ Accepts getYaw goals p) ∧
      goals = removed ++ rest ∧ List.Sublist updates since.reverse ∧
      List.Forall₂ (Removes getYaw) removed updates := by
  induction h with
  | accepted h => exact ⟨[], _, _, [], [], rfl, h, by simp, rfl, List.Sublist.refl _, .nil⟩
  | removed _ h ih =>
      rename_i p past goals rest goal hlog
      obtain ⟨since, accepted, older, removed, updates, rfl, haccepted, hsince, rfl, hsub,
        hremoved⟩ := ih
      refine ⟨p :: since, accepted, older, removed ++ [goal], updates ++ [p], rfl, haccepted,
        ?_, by simp, ?_, ?_⟩
      · exact List.forall_mem_cons.mpr ⟨not_accepts_of_removes h, hsince⟩
      · rw [List.reverse_cons]
        exact hsub.append (List.Sublist.refl _)
      · exact List.rel_append hremoved (.cons h .nil)
  | kept _ h ih =>
      rename_i p past goals rest hlog
      obtain ⟨since, accepted, older, removed, updates, rfl, haccepted, hsince, hgoals, hsub,
        hremoved⟩ := ih
      refine ⟨p :: since, accepted, older, removed, updates, rfl, haccepted,
        List.forall_mem_cons.mpr ⟨h, hsince⟩, hgoals, ?_, hremoved⟩
      rw [List.reverse_cons]
      exact hsub.trans (List.sublist_append_left _ _)

/-- The tolerances are finite and non-negative, and an active mission has goals left of
those it was accepted with. -/
structure Logged (getYaw : Quaternion → Double) (gm : GoalManager)
    (past : List (GoalManager × Event)) : Prop where
  tolerance : ∃ e : ExactTolerance, gm.goalTolerance = e.toGoalTolerance
  mission : gm.state = .active → gm.goals.goals ≠ [] ∧
    ∃ goals, MissionLog getYaw past goals gm.goals.goals

variable {past : List (GoalManager × Event)} {e : Event}

theorem step_tolerance (h : ∃ e : ExactTolerance, gm.goalTolerance = e.toGoalTolerance)
    (he : ReadsTolerances e) :
    ∃ e' : ExactTolerance, (step getYaw gm e).goalTolerance = e'.toGoalTolerance := by
  unfold step
  rcases gm.handle_goalTolerance getYaw e with hsame | ⟨params, nav, rfl, hread⟩
  · rw [hsame]
    exact h
  · rw [hread]
    exact he

theorem mission_of_sameMission (h : Logged getYaw gm past)
    (hsame : SameMission (step getYaw gm e) gm) (haccepts : ∀ goals, ¬ Accepts getYaw goals (gm, e))
    (hactive : (step getYaw gm e).state = .active) :
    (step getYaw gm e).goals.goals ≠ [] ∧
      ∃ goals, MissionLog getYaw ((gm, e) :: past) goals (step getYaw gm e).goals.goals := by
  obtain ⟨hnonempty, goals, hlog⟩ := h.mission (hsame.state.symm.trans hactive)
  rw [hsame.goals]
  exact ⟨hnonempty, goals, .kept hlog haccepts⟩

theorem command_mission (h : Logged getYaw gm past) {msg : NavigationControl}
    {readings : ControlReadings} (hcommand : gm.command e = some (msg, readings))
    (hactive : (step getYaw gm e).state = .active) :
    (step getYaw gm e).goals.goals ≠ [] ∧
      ∃ goals, MissionLog getYaw ((gm, e) :: past) goals (step getYaw gm e).goals.goals := by
  have hhandle : gm.handle getYaw e = gm.controlCallback msg readings :=
    handle_of_command hcommand
  have hstep : step getYaw gm e = (gm.controlCallback msg readings).1 :=
    congrArg Prod.fst hhandle
  by_cases hself : msg.userId = GoalManager.id
  · rw [gm.controlCallback_of_self msg readings hself] at hhandle hstep
    refine mission_of_sameMission h (by rw [hstep]; exact .refl gm) ?_ hactive
    rintro goals ⟨_, _, -, -, response, hmem, -⟩
    rw [hhandle] at hmem
    exact absurd hmem List.not_mem_nil
  · obtain ⟨notices, response, hpublished, -, hhandled⟩ :=
      gm.controlCallback_handled msg readings hself
    rw [← hstep] at hhandled
    have hsingle : notices = [] → response.type ≠ .accept →
        ∀ goals, ¬ Accepts getYaw goals (gm, e) := by
      rintro rfl htype goals ⟨_, _, -, -, other, hmem, haccept⟩
      rw [hhandle, hpublished, List.nil_append, List.mem_singleton] at hmem
      exact htype (hmem ▸ haccept)
    cases hhandled with
    | accepted _ hgoals haccept _ hgoals' _ =>
        rw [hgoals']
        refine ⟨hgoals, _, .accepted ⟨msg, readings, hcommand, rfl, response, ?_, haccept⟩⟩
        rw [hhandle, hpublished]
        exact List.mem_append_right _ (List.mem_singleton_self _)
    | cancelled _ _ _ _ hstate => exact absurd (hactive.symm.trans hstate) (by decide)
    | refused _ hrefused hsame =>
        exact mission_of_sameMission h hsame (hsingle rfl (by simp [hrefused.1])) hactive
    | reported _ hreport hsame =>
        exact mission_of_sameMission h hsame
          (hsingle rfl fun haccept => hreport.not_isAnswer (Or.inl haccept)) hactive
    | declined _ _ _ hanswer hsame =>
        exact mission_of_sameMission h hsame
          (hsingle rfl fun haccept => hanswer (Or.inl haccept)) hactive
    | unknown _ herror hsame =>
        exact mission_of_sameMission h hsame (hsingle rfl (by simp [herror])) hactive

/-- An update of an active mission takes one goal at most, and only if it is reached. -/
theorem progress_log (h : Logged getYaw gm past) {nav : NavState} {readings : UpdateReadings}
    {odom : Odometry} (hactive : gm.state = .active) (hpose : nav.robotPose = some odom)
    (hnumbers : ComparesNumbers getYaw gm (.operation (.update nav readings)))
    (hafter : (step getYaw gm (.operation (.update nav readings))).goals.goals =
      (gm.progress getYaw odom.pose).goals.goals) :
    ∃ goals, MissionLog getYaw ((gm, .operation (.update nav readings)) :: past) goals
      (step getYaw gm (.operation (.update nav readings))).goals.goals := by
  obtain ⟨-, accepted, hlog⟩ := h.mission hactive
  obtain ⟨e, he⟩ := h.tolerance
  rcases gm.progress_cases getYaw odom.pose with
    hsame | ⟨firstGoal, goals, hgoals, hheld, hreaches, hremoved⟩
  · rw [hafter, hsame]
    exact ⟨accepted, .kept hlog (not_accepts_of_command_none rfl)⟩
  · have hrest : (step getYaw gm (.operation (.update nav readings))).goals.goals = goals := by
      rw [hafter, hremoved]
    have hcompared := hnumbers odom firstGoal goals hactive hheld hpose hgoals
    rw [he] at hcompared hreaches
    have hreached := (reached_iff e).mpr hcompared hreaches
    rw [hgoals] at hlog
    rw [hrest]
    exact ⟨accepted, .removed hlog
      ⟨nav, readings, odom, goals, e, rfl, hpose, hheld, hgoals, hrest, he, hreached⟩⟩

theorem update_mission (h : Logged getYaw gm past) {nav : NavState} {readings : UpdateReadings}
    (hnumbers : ComparesNumbers getYaw gm (.operation (.update nav readings)))
    (hactive : (step getYaw gm (.operation (.update nav readings))).state = .active) :
    (step getYaw gm (.operation (.update nav readings))).goals.goals ≠ [] ∧
      ∃ goals, MissionLog getYaw ((gm, .operation (.update nav readings)) :: past) goals
        (step getYaw gm (.operation (.update nav readings))).goals.goals := by
  have hupdated : Updated gm getYaw nav (step getYaw gm (.operation (.update nav readings)))
      (gm.update getYaw nav readings).2.2.control := gm.update_updated getYaw nav readings
  generalize (gm.update getYaw nav readings).2.2.control = published at hupdated
  cases hupdated with
  | idle _ hstate' => exact absurd (hactive.symm.trans hstate') (by decide)
  | waiting _ hsame =>
      exact mission_of_sameMission h hsame (not_accepts_of_command_none rfl) hactive
  | navigating hstate hpose _ hgoals hnonempty _ =>
      exact ⟨hnonempty, progress_log h hstate hpose hnumbers (by rw [hgoals])⟩
  | finished _ _ _ _ _ hstate' => exact absurd (hactive.symm.trans hstate') (by decide)

theorem step_logged (h : Logged getYaw gm past) (htolerances : ReadsTolerances e)
    (hnumbers : ComparesNumbers getYaw gm e) :
    Logged getYaw (step getYaw gm e) ((gm, e) :: past) := by
  refine ⟨step_tolerance h.tolerance htolerances, ?_⟩
  intro hactive
  have hended : MissionState.idle ≠ .active := by decide
  cases e with
  | control msg readings => exact command_mission h rfl hactive
  | operation op =>
      cases op with
      | goalPose pose readings => exact command_mission h rfl hactive
      | setFinished now => exact absurd hactive hended
      | setError reason now => exact absurd hactive hended
      | setFailed reason now => exact absurd hactive hended
      | setProgressHeld held =>
          exact mission_of_sameMission h ⟨rfl, rfl, rfl⟩ (not_accepts_of_command_none rfl) hactive
      | readParameters params nav =>
          exact mission_of_sameMission h ⟨rfl, rfl, rfl⟩ (not_accepts_of_command_none rfl) hactive
      | update nav readings => exact update_mission h hnumbers hactive

theorem run_logged (hrun : Run (step getYaw) Start gm past)
    (hallowed : ∀ p ∈ past, ReadsTolerances p.2 ∧ ComparesNumbers getYaw p.1 p.2) :
    Logged getYaw gm past := by
  refine hrun.history_invariant (fun gm e => ReadsTolerances e ∧ ComparesNumbers getYaw gm e)
    ?_ (fun gm e past h he => step_logged h he.1 he.2) hallowed
  rintro gm ⟨params, nav, e, htolerance, rfl⟩
  exact ⟨⟨e, htolerance⟩, fun hactive =>
    absurd (show MissionState.idle = .active from hactive) (by decide)⟩

end Missions

/-- A mission finishes only by reaching its goals, in runs whose updates compare numbers
or reject the pose: its goals were removed one by one and in order, by different updates
since it was accepted, with the progress not held and a finite pose within the
tolerances. -/
theorem finished_only_by_reaching {getYaw : Quaternion → Double} {gm : GoalManager}
    {past : List (GoalManager × Event)} (hrun : Run (step getYaw) Start gm past)
    (htolerances : ∀ p ∈ past, ReadsTolerances p.2)
    (hnumbers : ∀ p ∈ past, ComparesNumbers getYaw p.1 p.2) :
    ∀ before nav readings earlier, past = (before, .operation (.update nav readings)) :: earlier →
      (∃ msg ∈ (before.handle getYaw (.operation (.update nav readings))).2,
        msg.type = .finished) →
      ∃ goals since accepted older updates, past = since ++ accepted :: older ∧
        Accepts getYaw goals accepted ∧ (∀ p ∈ since, ∀ goals, ¬ Accepts getYaw goals p) ∧
        List.Sublist updates since.reverse ∧ List.Forall₂ (Removes getYaw) goals updates := by
  rintro before nav readings earlier rfl ⟨msg, hmsg, hfinished⟩
  obtain ⟨rfl, hbefore⟩ := hrun.last
  rw [List.forall_mem_cons] at htolerances hnumbers
  have hlogged := run_logged hbefore fun p hp => ⟨htolerances.2 p hp, hnumbers.2 p hp⟩
  have hupdated : Updated before getYaw nav
      (step getYaw before (.operation (.update nav readings)))
      (before.handle getYaw (.operation (.update nav readings))).2 :=
    before.update_updated getYaw nav readings
  generalize (before.handle getYaw (.operation (.update nav readings))).2 = published
    at hupdated hmsg
  cases hupdated with
  | idle => exact absurd hmsg List.not_mem_nil
  | waiting => exact absurd hmsg List.not_mem_nil
  | navigating _ _ hreported =>
      exact absurd (hfinished.symm.trans (hreported msg hmsg).1) (by decide)
  | finished hstate hpose _ _ hdone _ _ hgoals' _ =>
      obtain ⟨goals, hlog⟩ := progress_log hlogged hstate hpose hnumbers.1
        (by rw [hgoals', hdone])
      rw [hgoals'] at hlog
      obtain ⟨since, accepted, older, removed, updates, hpast, haccepted, hsince, hgoals, hsub,
        hremoved⟩ := hlog.explicit
      rw [List.append_nil] at hgoals
      subst hgoals
      exact ⟨goals, since, accepted, older, updates, hpast, haccepted, hsince, hsub, hremoved⟩

def requestOrigin : Event := .control { userId := "robot", goals := { goals := [{}] } } {}

def updateAt (pose : Pose) : Event := .operation (.update { robotPose := some { pose := pose } } {})

def newManager : GoalManager := (GoalManager.create {} {}).1

def navigatingManager : GoalManager := step (fun _ => 0) newManager requestOrigin

def lostPose : Pose := { position := { x := .nan, y := .nan, z := .nan } }

theorem run_updateAt (pose : Pose) :
    Run (step fun _ => 0) Start (step (fun _ => 0) navigatingManager (updateAt pose))
      [(navigatingManager, updateAt pose), (newManager, requestOrigin)] := by
  have hstart : Run (step fun _ => 0) Start newManager [] :=
    .init ⟨{}, {}, ⟨3 / 100, 10000, 1 / 100, by norm_num, by norm_num, by norm_num⟩, rfl, rfl⟩
  exact (hstart.next requestOrigin).next (updateAt pose)

theorem finished_only_by_reaching_origin :
    ∃ goals since accepted older updates,
      [(navigatingManager, updateAt {}), (newManager, requestOrigin)] =
          since ++ accepted :: older ∧
        Accepts (fun _ => 0) goals accepted ∧
        (∀ p ∈ since, ∀ goals, ¬ Accepts (fun _ => 0) goals p) ∧
        List.Sublist updates since.reverse ∧
        List.Forall₂ (Removes fun _ => 0) goals updates := by
  refine finished_only_by_reaching (run_updateAt {}) ?_ ?_ _ _ _ _ rfl (by decide +kernel)
  · simp only [List.forall_mem_cons]
    exact ⟨trivial, trivial, by simp⟩
  · simp only [List.forall_mem_cons]
    refine ⟨?_, trivial, by simp⟩
    intro odom firstGoal goals _ _ hpose hgoals
    have horigin : navigatingManager.goals.goals = [{}] := by decide +kernel
    obtain ⟨rfl, -⟩ := List.cons.inj (horigin.symm.trans hgoals)
    rw [← Option.some.inj hpose]
    exact Or.inl (by unfold Comparable; decide +kernel)

/-- At a pose that is not a number the mission finishes. -/
theorem finished_at_lostPose :
    ∃ gm past, Run (step fun _ => 0) Start gm ((navigatingManager, updateAt lostPose) :: past) ∧
      (∃ msg ∈ (navigatingManager.handle (fun _ => 0) (updateAt lostPose)).2,
        msg.type = .finished) ∧
      ∀ p ∈ (navigatingManager, updateAt lostPose) :: past, ∀ goal,
        ¬ Removes (fun _ => 0) goal p := by
  refine ⟨_, _, run_updateAt lostPose, by decide +kernel, ?_⟩
  simp only [List.forall_mem_cons]
  refine ⟨?_, ?_, by simp⟩
  · rintro goal ⟨nav, readings, odom, goals, e, he, hpose, -, -, -, -, hreached⟩
    obtain ⟨rfl, -⟩ : _ ∧ readings = {} := by simpa [updateAt, eq_comm] using he
    rw [← Option.some.inj hpose] at hreached
    exact absurd hreached.isFinite (by decide +kernel)
  · rintro goal ⟨nav, readings, odom, goals, e, he, -⟩
    contradiction

end EasyNav.MissionCompletion
