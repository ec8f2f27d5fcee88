import EasyNav.NavigationState

namespace EasyNav.VelocitySelection

open EasyNav.SpeedLimits
open EasyNav.NavigationState

inductive Choice where
  | none
  | controller
  | paused
  | takeover
  | override
  | safetyStop
  | inhibited
  deriving DecidableEq

structure Selection where
  cmd : TwistStamped := {}
  choice : Choice := .none
  fresh : Bool := false
  smooth : Bool := true
  deriving DecidableEq

structure VelocityMux where
  lastTarget : TwistStamped := {}
  lastChoice : Choice := .none
  deriving DecidableEq

namespace VelocityMux

def reset (_ : VelocityMux) : VelocityMux := {}

/-- A zero command, under the header of the controller's one if there is one. -/
def stop (mux : VelocityMux) (controller : Option TwistStamped) : TwistStamped :=
  { header := (controller.getD mux.lastTarget).header }

/-- The selection among the commands proposed this cycle, by priority. -/
def choose (mux : VelocityMux) (overrideCmd takeover controller : Option TwistStamped)
    (paused protectiveStop inhibited : Bool) : Selection :=
  if protectiveStop then
    -- Nobody may command the robot, recoveries included.
    { cmd := mux.stop controller
      choice := .safetyStop
      fresh := controller.isSome || decide (mux.lastChoice ≠ .safetyStop)
      smooth := true }
  else if inhibited then
    { cmd := mux.stop controller
      choice := .inhibited
      fresh := controller.isSome || decide (mux.lastChoice ≠ .inhibited)
      smooth := true }
  else
    match overrideCmd, takeover with
    | some cmd, _ => { cmd := cmd, choice := .override, fresh := true, smooth := false }
    | none, some cmd => { cmd := cmd, choice := .takeover, fresh := true, smooth := true }
    | none, none =>
        if paused then
          { cmd := mux.stop controller
            choice := .paused
            fresh := controller.isSome
            smooth := true }
        else
          match controller with
          | some cmd => { cmd := cmd, choice := .controller, fresh := true, smooth := true }
          | none =>
              { cmd := mux.lastTarget, choice := .none, fresh := false, smooth := true }

/-- Takes this cycle's proposals and selects the command. -/
def select (mux : VelocityMux) (nav : NavState) : Selection × VelocityMux × NavState :=
  let (overrideCmd, nav) := take nav .override
  let (takeover, nav) := take nav .takeover
  let (controller, nav) := take nav .controller
  let paused := nav.navigationPaused.getD false
  let protectiveStop := (nav.safetyStatus.getD {}).protectiveStop
  let inhibited := nav.inhibitMotion.getD false
  let selection := mux.choose overrideCmd takeover controller paused protectiveStop inhibited
  (selection, { lastTarget := selection.cmd, lastChoice := selection.choice }, nav)

variable (mux : VelocityMux) (nav : NavState)

theorem select_selection :
    (mux.select nav).1 =
      mux.choose (peek nav .override) (peek nav .takeover) (peek nav .controller)
        (nav.navigationPaused.getD false) (nav.safetyStatus.getD {}).protectiveStop
        (nav.inhibitMotion.getD false) := by
  have hsame := (take_sameButProposals (take (take nav .override).2 .takeover).2
    .controller).trans ((take_sameButProposals (take nav .override).2 .takeover).trans
      (take_sameButProposals nav .override))
  unfold select
  simp only [take_fst, hsame.navigationPaused, hsame.safetyStatus, hsame.inhibitMotion,
    peek_take]
  simp

/-- No proposal lingers into the next cycle. -/
theorem peek_select (source : VelocitySource) :
    peek (mux.select nav).2.2 source = none := by
  change peek (take (take (take nav .override).2 .takeover).2 .controller).2 source = none
  simp only [peek_take]
  cases source <;> simp

theorem select_cmdVel : (mux.select nav).2.2.cmdVel = nav.cmdVel := by
  change (take (take (take nav .override).2 .takeover).2 .controller).2.cmdVel = nav.cmdVel
  rw [(take_sameButProposals _ _).cmdVel, (take_sameButProposals _ _).cmdVel,
    (take_sameButProposals _ _).cmdVel]

section Choose

variable {mux} {overrideCmd takeover controller : Option TwistStamped}
  {paused protectiveStop inhibited : Bool}

/-- During a protective stop the selection is a stop, whatever is proposed. -/
theorem choose_of_protectiveStop :
    mux.choose overrideCmd takeover controller paused true inhibited =
      { cmd := mux.stop controller
        choice := .safetyStop
        fresh := controller.isSome || decide (mux.lastChoice ≠ .safetyStop)
        smooth := true } := rfl

/-- A selection that is not fresh keeps the last target, or asks for a stop. -/
theorem choose_cmd_of_not_fresh
    (h : (mux.choose overrideCmd takeover controller paused protectiveStop
      inhibited).fresh = false) :
    (mux.choose overrideCmd takeover controller paused protectiveStop inhibited).cmd =
        mux.lastTarget ∨
      (mux.choose overrideCmd takeover controller paused protectiveStop
        inhibited).cmd.twist = {} := by
  revert h
  unfold choose
  split
  · exact fun _ => Or.inr rfl
  · split
    · exact fun _ => Or.inr rfl
    · split
      · exact fun h => absurd h (by simp)
      · exact fun h => absurd h (by simp)
      · split
        · exact fun _ => Or.inr rfl
        · split
          · exact fun h => absurd h (by simp)
          · exact fun _ => Or.inl rfl

/-- The command selected is a proposed one, the last target or a stop. -/
theorem choose_cmd_cases :
    overrideCmd = some (mux.choose overrideCmd takeover controller paused protectiveStop
        inhibited).cmd ∨
      takeover = some (mux.choose overrideCmd takeover controller paused protectiveStop
        inhibited).cmd ∨
      controller = some (mux.choose overrideCmd takeover controller paused protectiveStop
        inhibited).cmd ∨
      (mux.choose overrideCmd takeover controller paused protectiveStop inhibited).cmd =
        mux.lastTarget ∨
      (mux.choose overrideCmd takeover controller paused protectiveStop
        inhibited).cmd.twist = {} := by
  unfold choose
  split
  · exact Or.inr (Or.inr (Or.inr (Or.inr rfl)))
  · split
    · exact Or.inr (Or.inr (Or.inr (Or.inr rfl)))
    · split
      · exact Or.inl rfl
      · exact Or.inr (Or.inl rfl)
      · split
        · exact Or.inr (Or.inr (Or.inr (Or.inr rfl)))
        · split
          · exact Or.inr (Or.inr (Or.inl rfl))
          · exact Or.inr (Or.inr (Or.inr (Or.inl rfl)))

theorem choose_smooth_eq_false_iff :
    (mux.choose overrideCmd takeover controller paused protectiveStop
        inhibited).smooth = false ↔
      (mux.choose overrideCmd takeover controller paused protectiveStop
        inhibited).choice = .override := by
  unfold choose
  repeat' split
  all_goals simp

theorem choose_fresh_of_override
    (h : (mux.choose overrideCmd takeover controller paused protectiveStop
      inhibited).choice = .override) :
    (mux.choose overrideCmd takeover controller paused protectiveStop
      inhibited).fresh = true := by
  revert h
  simp only [choose]
  repeat' split
  all_goals simp

theorem choose_choice_safetyStop_iff :
    (mux.choose overrideCmd takeover controller paused protectiveStop
        inhibited).choice = .safetyStop ↔ protectiveStop = true := by
  unfold choose
  repeat' split
  all_goals simp_all

/-- The safety channel's stop is a zero, and only its first cycle is new by itself. -/
theorem choose_of_choice_safetyStop
    (h : (mux.choose overrideCmd takeover controller paused protectiveStop
      inhibited).choice = .safetyStop) :
    (mux.choose overrideCmd takeover controller paused protectiveStop
        inhibited).cmd.twist = {} ∧
      ((mux.choose overrideCmd takeover controller paused protectiveStop
        inhibited).fresh = false → mux.lastChoice = .safetyStop) := by
  rw [choose_choice_safetyStop_iff] at h
  rw [h, choose_of_protectiveStop]
  refine ⟨rfl, ?_⟩
  intro hfresh
  simp only [Bool.or_eq_false_iff, decide_eq_false_iff_not, not_not] at hfresh
  exact hfresh.2

theorem choose_choice_inhibited_iff :
    (mux.choose overrideCmd takeover controller paused protectiveStop
        inhibited).choice = .inhibited ↔ protectiveStop = false ∧ inhibited = true := by
  unfold choose
  repeat' split
  all_goals simp_all

theorem choose_of_inhibited :
    mux.choose overrideCmd takeover controller paused false true =
      { cmd := mux.stop controller
        choice := .inhibited
        fresh := controller.isSome || decide (mux.lastChoice ≠ .inhibited)
        smooth := true } := rfl

end Choose

end VelocityMux

end EasyNav.VelocitySelection
