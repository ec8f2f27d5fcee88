import EasyNav.MissionInvariant

namespace EasyNav.FeedbackThrottle

open EasyNav.ExtendedArithmetic
open EasyNav.ExtendedArithmetic.Extended
open EasyNav.DoubleArithmetic
open EasyNav.NavigationState
open EasyNav.MissionMessages
open EasyNav.MissionServer
open EasyNav.MissionServer.GoalManager
open EasyNav.MissionInvariant
open EasyNav.Runs

abbrev History := List (GoalManager × Event)

def feedbackTime (getYaw : Quaternion → Double) (gm : GoalManager) : Event → Option Time
  | .operation (.update nav readings) =>
      if (gm.update getYaw nav readings).2.2.control.any (·.type = .feedback) then
        some readings.throttle
      else none
  | _ => none

def lastFeedback (getYaw : Quaternion → Double) (past : History) : Option Time :=
  past.findSome? fun p => feedbackTime getYaw p.1 p.2

/-- An update of an active mission with a pose, at this time. -/
inductive Navigates (gm : GoalManager) : Event → Time → Prop
  | update {nav : NavState} {readings : UpdateReadings} {odom : Odometry}
      (hactive : gm.state = .active) (hpose : nav.robotPose = some odom) :
      Navigates gm (.operation (.update nav readings)) readings.throttle

/-- Such an update without feedback is less than a period after the last feedback. -/
def FeedbackInTime (getYaw : Quaternion → Double) (past : History) : Prop :=
  ∀ gm e older, (gm, e) :: older <:+ past → ∀ now, Navigates gm e now →
    feedbackTime getYaw gm e = none →
      ∃ s, lastFeedback getYaw older = some s ∧ s ≤ now ∧ now < s + gm.updatePeriod

/-- No such update reads a clock that went back behind the last feedback. -/
def ClockKept (getYaw : Quaternion → Double) (past : History) : Prop :=
  ∀ gm e older, (gm, e) :: older <:+ past → ∀ now, Navigates gm e now →
    ∀ s, lastFeedback getYaw older = some s → s ≤ now

structure SameThrottle (a b : GoalManager) : Prop where
  firstUpdate : a.firstUpdate = b.firstUpdate
  lastUpdateTime : a.lastUpdateTime = b.lastUpdateTime
  updatePeriod : a.updatePeriod = b.updatePeriod

section Updating

variable {a b c gm : GoalManager} {getYaw : Quaternion → Double}

theorem SameThrottle.refl (gm : GoalManager) : SameThrottle gm gm := ⟨rfl, rfl, rfl⟩

theorem SameThrottle.trans (hab : SameThrottle a b) (hbc : SameThrottle b c) :
    SameThrottle a c :=
  ⟨hab.firstUpdate.trans hbc.firstUpdate, hab.lastUpdateTime.trans hbc.lastUpdateTime,
    hab.updatePeriod.trans hbc.updatePeriod⟩

theorem SameThrottle.shouldPublish (h : SameThrottle a b) (readings : UpdateReadings) :
    a.shouldPublish readings = b.shouldPublish readings := by
  rw [GoalManager.shouldPublish, GoalManager.shouldPublish, h.firstUpdate, h.lastUpdateTime,
    h.updatePeriod]

theorem controlCallback_sameThrottle (msg : NavigationControl) (readings : ControlReadings) :
    SameThrottle (gm.controlCallback msg readings).1 gm := by
  rcases gm.controlCallback_commanded msg readings with hsame | ⟨gm', hgm', hsame⟩
  · rw [hsame]
    exact .refl gm
  · rw [hsame]
    cases hgm' <;> exact ⟨rfl, rfl, rfl⟩

theorem syncState_sameThrottle (nav : NavState) : SameThrottle (gm.syncState nav).1 gm := by
  rw [syncState]
  split <;> exact ⟨rfl, rfl, rfl⟩

theorem syncPaused_sameThrottle (nav : NavState) : SameThrottle (gm.syncPaused nav).1 gm := by
  rw [syncPaused]
  split <;> exact ⟨rfl, rfl, rfl⟩

theorem synced_sameThrottle (gm : GoalManager) (nav : NavState) :
    SameThrottle (synced gm nav).1 gm :=
  (syncPaused_sameThrottle _).trans (syncState_sameThrottle nav)

theorem publishFinalInfo_sameThrottle (gm : GoalManager) (subscribed : Bool) :
    SameThrottle (gm.publishFinalInfo subscribed).1 gm := by
  rw [publishFinalInfo]
  split <;> exact ⟨rfl, rfl, rfl⟩

theorem publishInfo_sameThrottle (publishing subscribed : Bool) :
    SameThrottle (gm.publishInfo publishing subscribed).1 gm := by
  rw [publishInfo]
  split
  · exact publishFinalInfo_sameThrottle gm subscribed
  · split <;> exact ⟨rfl, rfl, rfl⟩

theorem progress_sameThrottle (pose : Pose) : SameThrottle (gm.progress getYaw pose) gm := by
  rw [progress]
  split
  · exact .refl gm
  · rw [checkGoals]
    split
    · exact .refl gm
    · split <;> exact ⟨rfl, rfl, rfl⟩

theorem finishIfDone_throttle (gm : GoalManager) (now : Time) :
    SameThrottle (gm.finishIfDone now).1 gm ∧
      (gm.finishIfDone now).2.any (·.type = .feedback) = false := by
  rcases gm.finishIfDone_cases now with ⟨-, hfinish⟩ | ⟨-, hfinish⟩
  · rw [hfinish]
    exact ⟨.refl gm, rfl⟩
  · rw [hfinish]
    exact ⟨⟨rfl, rfl, rfl⟩, rfl⟩

inductive Updates (gm : GoalManager) (nav : NavState) (readings : UpdateReadings) :
    GoalManager → Option Time → Prop
  | idle {gm' : GoalManager} (hsame : SameThrottle gm' gm)
      (hwaiting : gm.state = .idle ∨ nav.robotPose = none ∨ gm.goals.goals = []) :
      Updates gm nav readings gm' none
  | withheld {gm' : GoalManager} (hsame : SameThrottle gm' gm)
      (hwithheld : gm.shouldPublish readings = false) : Updates gm nav readings gm' none
  | published {gm' : GoalManager} (hfirst : gm'.firstUpdate = false)
      (hlast : gm'.lastUpdateTime = readings.throttle)
      (hperiod : gm'.updatePeriod = gm.updatePeriod)
      (hpublished : gm.shouldPublish readings = true) :
      Updates gm nav readings gm' (some readings.throttle)

theorem updateActive_throttle (gm : GoalManager) (getYaw : Quaternion → Double) (nav : NavState)
    (odom : Odometry) (firstGoal : Pose) (readings : UpdateReadings) :
    SameThrottle (gm.updateActive getYaw nav odom firstGoal readings).1
        (gm.publishFeedback (gm.feedback odom firstGoal readings) readings).1 ∧
      (gm.updateActive getYaw nav odom firstGoal readings).2.2.control.any (·.type = .feedback) =
        gm.shouldPublish readings := by
  rw [updateActive]
  dsimp only
  set published := gm.publishFeedback (gm.feedback odom firstGoal readings) readings
  have hreported : published.2.any (·.type = .feedback) = gm.shouldPublish readings := by
    change (gm.publishFeedback _ readings).2.any _ = _
    rw [publishFeedback]
    split
    · rename_i hpublish
      rw [hpublish]
      rfl
    · rename_i hwithhold
      rw [Bool.eq_false_of_not_eq_true hwithhold]
      rfl
  set informed := published.1.updateInfo (gm.feedback odom firstGoal readings).distanceToGoal
    (calculateAngle getYaw odom.pose firstGoal)
  have hinformed : SameThrottle informed published.1 := ⟨rfl, rfl, rfl⟩
  have hprogress : SameThrottle (informed.progress getYaw odom.pose) informed :=
    progress_sameThrottle odom.pose
  obtain ⟨hfinished, hnone⟩ :=
    finishIfDone_throttle (informed.progress getYaw odom.pose) readings.finished
  constructor
  · refine (publishInfo_sameThrottle _ _).trans ((syncState_sameThrottle _).trans ?_)
    exact hfinished.trans (hprogress.trans hinformed)
  · rw [List.any_append, hreported, hnone, Bool.or_false]

theorem updateIdle_throttle (gm : GoalManager) (nav : NavState) (subscribed : Bool) :
    SameThrottle (gm.updateIdle nav subscribed).1 gm ∧
      (gm.updateIdle nav subscribed).2.2.control = [] := by
  obtain ⟨hfirst, hlast, hperiod⟩ := publishFinalInfo_sameThrottle gm subscribed
  rw [updateIdle]
  dsimp only
  split
  · exact ⟨⟨hfirst, hlast, hperiod⟩, rfl⟩
  · exact ⟨⟨hfirst, hlast, hperiod⟩, rfl⟩

theorem update_updates (gm : GoalManager) (getYaw : Quaternion → Double) (nav : NavState)
    (readings : UpdateReadings) :
    Updates gm nav readings (gm.update getYaw nav readings).1
      (feedbackTime getYaw gm (.operation (.update nav readings))) := by
  have hsynced := synced_sameThrottle gm nav
  rw [feedbackTime]
  cases hstate : gm.state with
  | idle =>
      obtain ⟨hsame, hnone⟩ :=
        updateIdle_throttle (synced gm nav).1 (synced gm nav).2 readings.subscribed
      rw [update_of_idle getYaw hstate, hnone]
      exact .idle (hsame.trans hsynced) (.inl hstate)
  | active =>
      cases hpose : nav.robotPose with
      | none =>
          rw [update_of_no_pose getYaw hstate hpose]
          exact .idle hsynced (.inr (.inl hpose))
      | some odom =>
          cases hgoals : gm.goals.goals with
          | nil =>
              rw [update_of_no_goal getYaw hstate hgoals]
              exact .idle hsynced (.inr (.inr hgoals))
          | cons firstGoal goals =>
              rw [update_of_goal getYaw hstate hpose hgoals]
              obtain ⟨hsame, hfeedback⟩ := updateActive_throttle (synced gm nav).1 getYaw
                (synced gm nav).2 odom firstGoal.pose readings
              rw [hfeedback, hsynced.shouldPublish]
              rw [publishFeedback, hsynced.shouldPublish] at hsame
              cases hpublish : gm.shouldPublish readings with
              | false =>
                  rw [hpublish] at hsame
                  exact .withheld (hsame.trans hsynced) hpublish
              | true =>
                  rw [hpublish] at hsame
                  exact .published hsame.firstUpdate hsame.lastUpdateTime
                    (hsame.updatePeriod.trans hsynced.updatePeriod) hpublish

end Updating

/-- What the manager knows of the last feedback. -/
structure Remembers (getYaw : Quaternion → Double) (gm : GoalManager) (past : History) :
    Prop where
  firstUpdate : gm.firstUpdate = (lastFeedback getYaw past).isNone
  lastUpdateTime : ∀ s, lastFeedback getYaw past = some s → gm.lastUpdateTime = s
  updatePeriod : 0 ≤ gm.updatePeriod

section Steps

variable {getYaw : Quaternion → Double} {gm gm' : GoalManager} {past : History} {e : Event}

theorem Remembers.of_same (h : Remembers getYaw gm past) (hsame : SameThrottle gm' gm)
    (hnone : feedbackTime getYaw gm e = none) : Remembers getYaw gm' ((gm, e) :: past) := by
  have hlast : lastFeedback getYaw ((gm, e) :: past) = lastFeedback getYaw past := by
    rw [lastFeedback, List.findSome?_cons, hnone]
    rfl
  constructor
  · rw [hsame.firstUpdate, hlast, h.firstUpdate]
  · rw [hsame.lastUpdateTime, hlast]
    exact h.lastUpdateTime
  · rw [hsame.updatePeriod]
    exact h.updatePeriod

theorem period_nonneg {f : Double} (hf : ¬ f ≤ 0) : 0 ≤ durationCast (.fin 1 / f) := by
  cases f with
  | fin f =>
      have hpos : 0 < f := not_le.mp fun hle => hf (fin_le_fin.mpr hle)
      have hnonneg : (0 : ℚ) ≤ 1 / f := (one_div_pos.mpr hpos).le
      rw [div_fin hpos.ne', durationCast, if_neg (not_lt.mpr hnonneg)]
      exact Int.floor_nonneg.mpr (mul_nonneg hnonneg (by norm_num))
  | nan => exact le_refl (0 : Int)
  | _ =>
      change 0 ≤ durationCast (.fin 0)
      decide +kernel

theorem readParameters_updatePeriod (params : GoalParameters) (nav : NavState) :
    0 ≤ (gm.readParameters params nav).1.updatePeriod := by
  apply period_nonneg
  split
  · rw [zero_def, fin_le_fin]
    norm_num
  · assumption

theorem step_remembers (h : Remembers getYaw gm past) (e : Event) :
    Remembers getYaw (step getYaw gm e) ((gm, e) :: past) := by
  cases e with
  | control msg readings => exact h.of_same (controlCallback_sameThrottle msg readings) rfl
  | operation op =>
      cases op with
      | goalPose pose readings => exact h.of_same (controlCallback_sameThrottle _ readings) rfl
      | readParameters params nav =>
          exact ⟨h.firstUpdate, h.lastUpdateTime, readParameters_updatePeriod params nav⟩
      | update nav readings =>
          have hupdates := update_updates gm getYaw nav readings
          change Remembers getYaw (gm.update getYaw nav readings).1 _
          generalize htime : feedbackTime getYaw gm (.operation (.update nav readings)) = time
            at hupdates
          cases hupdates with
          | idle hsame => exact h.of_same hsame htime
          | withheld hsame => exact h.of_same hsame htime
          | published hfirst hlast hperiod =>
              have hnewest : lastFeedback getYaw ((gm, .operation (.update nav readings)) :: past) =
                  some readings.throttle := by
                rw [lastFeedback, List.findSome?_cons, htime]
              constructor
              · rw [hnewest]
                exact hfirst
              · intro s hs
                rw [hlast]
                exact Option.some.inj (hnewest.symm.trans hs)
              · rw [hperiod]
                exact h.updatePeriod
      | _ => exact h.of_same ⟨rfl, rfl, rfl⟩ rfl

theorem run_remembers (hrun : Run (step getYaw) Start gm past) : Remembers getYaw gm past := by
  induction hrun with
  | init h =>
      obtain ⟨params, nav, rfl⟩ := h
      exact ⟨rfl, nofun, readParameters_updatePeriod params _⟩
  | next _ e ih => exact step_remembers ih e

/-- Without feedback, the clock has not got a whole period further than the last one. -/
theorem withheld_iff (h : Remembers getYaw gm past) (hgoals : WellFormed gm) {now : Time}
    (hnavigates : Navigates gm e now) :
    feedbackTime getYaw gm e = none ↔
      ∃ s, lastFeedback getYaw past = some s ∧ now < s + gm.updatePeriod := by
  obtain ⟨hactive, hpose⟩ := hnavigates
  rename_i nav readings odom
  have hupdates := update_updates gm getYaw nav readings
  have hshould : gm.shouldPublish readings = false ↔
      ∃ s, lastFeedback getYaw past = some s ∧ readings.throttle < s + gm.updatePeriod := by
    rw [shouldPublish, h.firstUpdate]
    cases hlast : lastFeedback getYaw past with
    | none => simp
    | some s =>
        rw [h.lastUpdateTime s hlast]
        simp only [Option.isNone_some, Bool.false_or, decide_eq_false_iff_not, Option.some.injEq,
          exists_eq_left', not_le, sub_lt_iff_lt_add']
  rw [← hshould]
  generalize feedbackTime getYaw gm (.operation (.update nav readings)) = time at hupdates ⊢
  cases hupdates with
  | idle hsame hwaiting =>
      rcases hwaiting with hidle | hnone | hempty
      · rw [hidle] at hactive
        cases hactive
      · rw [hnone] at hpose
        cases hpose
      · exact absurd hempty (hgoals.active_iff.mp hactive)
  | withheld hsame hwithheld => exact iff_of_true rfl hwithheld
  | published hfirst hlast hperiod hpublished =>
      rw [hpublished]
      simp

theorem in_time_iff (h : Remembers getYaw gm past) (hgoals : WellFormed gm) {now : Time}
    (hnavigates : Navigates gm e now) :
    (feedbackTime getYaw gm e = none →
        ∃ s, lastFeedback getYaw past = some s ∧ s ≤ now ∧ now < s + gm.updatePeriod) ↔
      ∀ s, lastFeedback getYaw past = some s → s ≤ now := by
  rw [withheld_iff h hgoals hnavigates]
  constructor
  · intro hin s hs
    by_contra hback
    have hsoon : now < s + gm.updatePeriod :=
      lt_add_of_lt_of_nonneg (not_le.mp hback) h.updatePeriod
    obtain ⟨s', hs', hle, -⟩ := hin ⟨s, hs, hsoon⟩
    obtain rfl := Option.some.inj (hs.symm.trans hs')
    exact hback hle
  · rintro hkept ⟨s, hs, hlt⟩
    exact ⟨s, hs, hkept s hs, hlt⟩

end Steps

/-- In every run, feedback is never withheld for longer than its period exactly when the
clock never went back behind the last feedback. -/
theorem feedback_in_time_iff {getYaw : Quaternion → Double} {gm : GoalManager} {past : History}
    (hrun : Run (step getYaw) Start gm past) :
    FeedbackInTime getYaw past ↔ ClockKept getYaw past := by
  have hstep : ∀ gm e older, (gm, e) :: older <:+ past → ∀ now, Navigates gm e now →
      ((feedbackTime getYaw gm e = none →
          ∃ s, lastFeedback getYaw older = some s ∧ s ≤ now ∧ now < s + gm.updatePeriod) ↔
        ∀ s, lastFeedback getYaw older = some s → s ≤ now) := by
    rintro gm e older ⟨newer, rfl⟩ now hnavigates
    have hbefore := hrun.before
    exact in_time_iff (run_remembers hbefore) (run_wellFormed hbefore) hnavigates
  constructor
  · intro h gm e older hsuffix now hnavigates
    exact (hstep gm e older hsuffix now hnavigates).mp (h gm e older hsuffix now hnavigates)
  · intro h gm e older hsuffix now hnavigates
    exact (hstep gm e older hsuffix now hnavigates).mpr (h gm e older hsuffix now hnavigates)

def exampleMission : Event :=
  .control { userId := "robot", goals := { goals := [{}] } } {}

def updateAt (now : Time) : Event :=
  .operation (.update { robotPose := some { pose := { position := { x := .fin 5 } } } }
    { throttle := now })

def throttledHistory : History :=
  history (step fun _ => 0) (GoalManager.create {} {}).1
    [exampleMission, updateAt 0, updateAt 10000000] []

theorem feedback_in_time_iff_throttled :
    lastFeedback (fun _ => 0) throttledHistory = some 0 ∧
      (FeedbackInTime (fun _ => 0) throttledHistory ↔
        ClockKept (fun _ => 0) throttledHistory) := by
  have hstart : Run (step fun _ => 0) Start (GoalManager.create {} {}).1 [] := .init ⟨{}, {}, rfl⟩
  exact ⟨by decide +kernel, feedback_in_time_iff (hstart.foldl _)⟩

def setBackHistory : History :=
  history (step fun _ => 0) (GoalManager.create {} {}).1
    [exampleMission, updateAt 1000000000000, updateAt 10000000000] []

/-- Then there is no feedback, although the last one is not of the last period. -/
theorem feedback_withheld_set_back :
    (∃ gm, Run (step fun _ => 0) Start gm setBackHistory) ∧
      ¬ FeedbackInTime (fun _ => 0) setBackHistory := by
  have hstart : Run (step fun _ => 0) Start (GoalManager.create {} {}).1 [] := .init ⟨{}, {}, rfl⟩
  refine ⟨⟨_, hstart.foldl _⟩, fun hinTime => ?_⟩
  obtain ⟨s, hs, hle, -⟩ := hinTime _ _ _ (List.suffix_refl _) 10000000000
    (.update (by decide +kernel) rfl) (by decide +kernel)
  have hlast : lastFeedback (fun _ => 0) setBackHistory.tail = some 1000000000000 := by
    decide +kernel
  obtain rfl := Option.some.inj (hlast.symm.trans hs)
  exact absurd hle (by decide)

end EasyNav.FeedbackThrottle
